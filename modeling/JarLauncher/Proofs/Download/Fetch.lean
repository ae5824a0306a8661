import JarLauncher.Proofs.Download.Staging
import JarLauncher.Proofs.Files.Computer

/-!
What a download leaves behind: the whole document in its place and nothing beside it, or the first fault
and the place as it was.
-/

namespace JarLauncher.Download

open Files Machine

/-- The document that a server has sent, or the first fault that a download of it meets. -/
def Transfer.document (url : String) : Transfer → Except LauncherError Bytes
  | .failed message => .error (.fetchNetwork url message)
  | .response reply =>
    if reply.status = 404 then .error (.fetchNotFound url)
    else if !reply.isSuccess then .error (.fetchRemoteError reply.status reply.statusText)
    else match reply.bodyEnd with
      | .broken message => .error (.fetchNetwork url message)
      | .complete => if reply.body = [] then .error .fetchEmptyPayload else .ok reply.body

theorem Response.status_ne_404 {response : Response} (success : response.isSuccess = true) :
    response.status ≠ 404 := by
  intro missing
  simp [isSuccess, missing] at success

/-- A document is the whole body of a response that promised one, and it is not empty. -/
theorem Transfer.document_eq_ok {url : String} {transfer : Transfer} {contents : Bytes} :
    transfer.document url = .ok contents ↔
      ∃ reply, transfer = .response reply ∧ reply.isSuccess = true ∧ reply.bodyEnd = .complete ∧
        reply.body = contents ∧ contents ≠ [] := by
  cases transfer with
  | failed message => simp [document]
  | response reply =>
      simp only [document, Transfer.response.injEq, exists_eq_left']
      constructor
      · intro sent
        split at sent
        · cases sent
        split at sent
        · cases sent
        split at sent
        · cases sent
        split at sent
        · cases sent
        · rename_i success _ complete present
          cases sent
          exact ⟨by simpa using success, complete, rfl, present⟩
      · rintro ⟨success, complete, rfl, present⟩
        rw [if_neg (Response.status_ne_404 success), complete]
        simp [success, present]

/-- How the storing of a response ends: a body that broke off counts before an empty one. -/
def Response.stored (url : String) (response : Response) : Except LauncherError Unit :=
  match response.bodyEnd with
  | .broken message => .error (.fetchNetwork url message)
  | .complete => if response.body = [] then .error .fetchEmptyPayload else .ok ()

theorem Response.document_of_success {response : Response} (success : response.isSuccess = true) (url : String) :
    (Transfer.response response).document url = (response.stored url).map fun _ => response.body := by
  rw [Transfer.document, if_neg (status_ne_404 success), success]
  unfold stored
  cases response.bodyEnd with
  | broken message => rfl
  | complete => by_cases empty : response.body = [] <;> simp [empty, Except.map]

variable (serve : String → Transfer) {computer : Computer} {directory staging place destination : Path}
  {name target : Bytes}

theorem outcome_change (step : Procedure (Except IoFault Unit)) {request : Request} {after : Computer}
    (answered : ∀ world, step.run (Computer.answer serve) world = world.changed request)
    (done : computer.changed request = (.ok (), after)) (path : Path) :
    Attempt.outcome (Computer.answer serve) (faultAt path step) computer = (.ok (), after) := by
  rw [Attempt.outcome_faultAt, answered, done]
  rfl

theorem outcome_idle (step : Procedure (Except IoFault Unit)) (computer : Computer)
    (answered : ∀ world, step.run (Computer.answer serve) world = (.ok (), world)) (path : Path) :
    Attempt.outcome (Computer.answer serve) (faultAt path step) computer = (.ok (), computer) := by
  rw [Attempt.outcome_faultAt, answered]
  rfl

/-- Chunks that are appended one by one stand one after another behind what was there. -/
theorem outcome_append_chunks (leads : staging.IsEntry directory name) (chunks : List Bytes) :
    ∀ {computer : Computer} {contents : Bytes},
      computer.files.inside directory name = some (.file contents) →
      ∃ after, Attempt.outcome (Computer.answer serve)
          (chunks.forM fun chunk => faultAt staging (.request (.append staging chunk))) computer =
            (.ok (), after) ∧
        computer.Became after directory
          (Function.update (computer.files.inside directory) name (some (.file (contents ++ chunks.flatten))))
          [] := by
  induction chunks with
  | nil =>
      intro computer contents found
      refine ⟨computer, rfl, ?_⟩
      have same : Function.update (computer.files.inside directory) name
          (some (.file (contents ++ [].flatten))) = computer.files.inside directory := by
        rw [List.flatten_nil, List.append_nil, Function.update_eq_self_iff, found]
      rw [same]
      exact .refl computer directory
  | cons chunk chunks ih =>
      intro computer contents found
      obtain ⟨longer, appended, became⟩ := Computer.append_became leads found chunk
      have holds : longer.files.inside directory name = some (.file (contents ++ chunk)) := by
        rw [became.inside, Function.update_self]
      obtain ⟨after, ended, rest⟩ := ih holds
      have first := outcome_change serve (.request (.append staging chunk)) (fun _ => rfl) appended staging
      refine ⟨after, ?_, ?_⟩
      · change Attempt.outcome _ (_ >>= fun _ => chunks.forM _) _ = _
        rw [Attempt.outcome_bind_of_ok first, ended]
      · have whole := became.trans rest
        rw [became.inside, Function.update_idem, List.append_assoc] at whole
        exact whole

/-- The body is in the hidden file, however the storing ends. -/
theorem outcome_store (beside : Beside staging destination directory place name target)
    (free : computer.files.inside directory name ≠ some .directory) (url : String) (response : Response) :
    ∃ after, Attempt.outcome (Computer.answer serve) (store url staging response) computer =
        (response.stored url, after) ∧
      computer.Became after directory
        (Function.update (computer.files.inside directory) name (some (.file response.body))) [] := by
  obtain ⟨first, prepared, ready⟩ := Computer.createDirectories_became computer beside.same
  obtain ⟨second, created, empty⟩ := Computer.createFile_became beside.staged (by rw [ready.inside]; exact free)
  have started : second.files.inside directory name = some (.file []) := by
    rw [empty.inside, Function.update_self]
  obtain ⟨after, appended, filled⟩ := outcome_append_chunks serve beside.staged response.chunks started
  have whole := (ready.trans empty).trans filled
  rw [empty.inside, ready.inside, Function.update_idem] at whole
  have held : after.files.contents? staging = some response.body := by
    rw [MemoryFiles.contents?_of_isEntry beside.staged, whole.inside, Function.update_self]
    rfl
  refine ⟨after, ?_, whole⟩
  have made := outcome_change serve (.request (.createDirectories place)) (fun _ => rfl) prepared place
  have opened := outcome_change serve (.request (.createFile staging)) (fun _ => rfl) created staging
  unfold store
  simp only [beside.above]
  rw [Attempt.outcome_bind_of_ok made, Attempt.outcome_bind_of_ok opened, Attempt.outcome_bind_of_ok appended]
  cases ending : response.bodyEnd with
  | broken message =>
      rw [Attempt.outcome_bind_of_error (Attempt.outcome_throw _)]
      simp only [Response.stored, ending]
  | complete =>
      have sized : Attempt.outcome (Computer.answer serve)
          (faultAt staging (.request (.size staging))) after = (.ok response.body.length, after) := by
        rw [Attempt.outcome_faultAt, Procedure.run_request, Computer.answer, held]
        rfl
      simp only [Response.stored, ending]
      have flushed := outcome_idle serve (.request (.flush staging)) after (fun _ => rfl) staging
      have synced := outcome_idle serve (.request (.sync staging)) after (fun _ => rfl) staging
      rw [Attempt.outcome_bind_of_ok flushed, Attempt.outcome_bind_of_ok synced,
        Attempt.outcome_bind_of_ok sized]
      by_cases empty : response.body = []
      · rw [if_pos empty, empty]
        rfl
      · rw [if_neg empty, if_neg (by simpa using empty)]
        rfl

theorem outcome_get (computer : Computer) (directory : Path) (url : String) :
    ∃ asked, Attempt.outcome (Computer.answer serve) (ExceptT.lift (.request (.get url))) computer =
        (.ok (serve url), asked) ∧
      computer.Became asked directory (computer.files.inside directory) [url] :=
  ⟨_, Attempt.outcome_lift _, rfl, rfl, rfl⟩

/-- An answer that does not promise the document is refused before anything is stored. -/
theorem outcome_collect_of_refused (computer : Computer) (directory staging : Path) {url : String}
    (refused : ∀ reply, serve url = .response reply → reply.isSuccess = false) :
    ∃ error asked, (serve url).document url = .error error ∧
      Attempt.outcome (Computer.answer serve) (collect url staging) computer = (.error error, asked) ∧
      computer.Became asked directory (computer.files.inside directory) [url] := by
  obtain ⟨asked, asking, became⟩ := outcome_get serve computer directory url
  unfold collect
  rw [Attempt.outcome_bind_of_ok asking]
  cases came : serve url with
  | failed message => exact ⟨_, asked, rfl, rfl, became⟩
  | response reply =>
      have unpromised := refused reply came
      by_cases missing : reply.status = 404
      · refine ⟨.fetchNotFound url, asked, if_pos missing, ?_, became⟩
        simp only [missing, if_true]
        exact Attempt.outcome_bind_of_error (Attempt.outcome_throw _) _
      · refine ⟨.fetchRemoteError reply.status reply.statusText, asked, ?_, ?_, became⟩
        · rw [Transfer.document, if_neg missing]
          simp [unpromised]
        · simp only [missing, if_false, unpromised, Bool.not_false, if_true]
          exact Attempt.outcome_bind_of_error (Attempt.outcome_throw _) _

theorem outcome_collect_of_promised (beside : Beside staging destination directory place name target)
    (free : computer.files.inside directory name ≠ some .directory) {url : String} {reply : Response}
    (came : serve url = .response reply) (success : reply.isSuccess = true) :
    ∃ after, Attempt.outcome (Computer.answer serve) (collect url staging) computer =
        (reply.stored url, after) ∧
      computer.Became after directory
        (Function.update (computer.files.inside directory) name (some (.file reply.body))) [url] := by
  obtain ⟨asked, asking, untouched⟩ := outcome_get serve computer directory url
  have afresh : asked.files.inside directory name ≠ some .directory := by
    rw [untouched.inside]
    exact free
  obtain ⟨after, ended, became⟩ := outcome_store serve beside afresh url reply
  have whole := untouched.trans became
  rw [untouched.inside] at whole
  refine ⟨after, ?_, whole⟩
  unfold collect
  rw [Attempt.outcome_bind_of_ok asking, came]
  simp only [Response.status_ne_404 success, success, if_false, Bool.not_true, Bool.false_eq_true]
  exact ended

/-- Only the hidden file is touched while a document is collected, and the document is in it if there is one. -/
theorem outcome_collect (beside : Beside staging destination directory place name target)
    (free : computer.files.inside directory name ≠ some .directory) (url : String) :
    ∃ entry after, Attempt.outcome (Computer.answer serve) (collect url staging) computer =
        (((serve url).document url).map fun _ => (), after) ∧
      computer.Became after directory (Function.update (computer.files.inside directory) name entry) [url] ∧
      entry ≠ some .directory ∧
      ∀ contents, (serve url).document url = .ok contents → entry = some (.file contents) := by
  by_cases promised : ∃ reply, serve url = .response reply ∧ reply.isSuccess = true
  · obtain ⟨reply, came, success⟩ := promised
    obtain ⟨after, ended, became⟩ := outcome_collect_of_promised serve beside free came success
    refine ⟨_, after, ?_, became, by simp, ?_⟩
    · rw [ended, came, Response.document_of_success success]
      cases reply.stored url <;> rfl
    · intro contents sent
      obtain ⟨other, again, _, _, whole, _⟩ := Transfer.document_eq_ok.mp sent
      rw [came] at again
      cases again
      rw [whole]
  · have refused : ∀ reply, serve url = .response reply → reply.isSuccess = false := by
      intro reply came
      by_contra success
      exact promised ⟨reply, came, by simpa using success⟩
    obtain ⟨error, asked, fault, ended, became⟩ := outcome_collect_of_refused serve computer directory staging refused
    refine ⟨computer.files.inside directory name, asked, ?_, ?_, free, ?_⟩
    · rw [ended, fault]
      rfl
    · rw [Function.update_eq_self]
      exact became
    · intro contents sent
      rw [fault] at sent
      cases sent

/-- A document that was sent takes its place, and nothing is left beside it. -/
theorem outcome_fetch_of_ok {pid : Nat} {url : String} {contents : Bytes}
    (beside : Beside (stagingPath destination pid) destination directory place name target)
    (free : computer.files.inside directory name ≠ some .directory)
    (room : computer.files.inside directory target ≠ some .directory)
    (sent : (serve url).document url = .ok contents) :
    ∃ after, Attempt.outcome (Computer.answer serve) (fetch pid url destination) computer =
        (.ok destination, after) ∧
      computer.Became after directory
        (Function.update (Function.update (computer.files.inside directory) name none) target
          (some (.file contents))) [url] := by
  obtain ⟨entry, collected, ended, became, _, whole⟩ :=
    outcome_collect serve beside free url
  have found : collected.files.inside directory name = some (.file contents) := by
    rw [became.inside, Function.update_self, whole contents sent]
  have clear : collected.files.inside directory target ≠ some .directory := by
    rw [became.inside, Function.update_of_ne beside.apart]
    exact room
  obtain ⟨after, moved, placed⟩ := Computer.moved_became beside.staged beside.placed found clear
  have total := became.trans placed
  rw [became.inside, Function.update_idem, List.append_nil] at total
  refine ⟨after, ?_, total⟩
  rw [sent] at ended
  have putting := outcome_change serve (.request (.replace (stagingPath destination pid) destination)) (fun _ => rfl)
    moved destination
  unfold fetch
  rw [Attempt.outcome_tryCatch, Attempt.outcome_bind_of_ok ended, Attempt.outcome_bind_of_ok putting]
  rfl

/-- After a fault, what was collected is discarded and the fault is told. -/
theorem outcome_discard_and_throw (Value : Type) (leads : staging.IsEntry directory name)
    (free : computer.files.inside directory name ≠ some .directory) (error : LauncherError) :
    ∃ after, Attempt.outcome (Computer.answer serve)
        (do let _ ← ExceptT.lift (.request (.discard staging))
            throw error : Attempt Value) computer = (.error error, after) ∧
      computer.Became after directory
        (Function.update (computer.files.inside directory) name none) [] := by
  obtain ⟨result, after, discarded, became⟩ := Computer.discard_became leads free
  have done : Attempt.outcome (Computer.answer serve) (ExceptT.lift (.request (.discard staging)))
      computer = (.ok result, after) := by
    rw [Attempt.outcome_lift, Procedure.run_request]
    change (Except.ok (computer.changed _).1, (computer.changed _).2) = _
    rw [discarded]
  exact ⟨after, Attempt.outcome_bind_of_ok done _, became⟩

/-- A download that fails, having touched nothing but the hidden file, removes it. -/
theorem outcome_fetch_of_fault {pid : Nat} {url : String} {error : LauncherError} {entry : Option Entry}
    {reached : Computer} (beside : Beside (stagingPath destination pid) destination directory place name target)
    (failed : Attempt.outcome (Computer.answer serve)
      (do
        collect url (stagingPath destination pid)
        faultAt destination (.request (.replace (stagingPath destination pid) destination))
        return destination) computer = (.error error, reached))
    (became : computer.Became reached directory (Function.update (computer.files.inside directory) name entry) [url])
    (file : entry ≠ some .directory) :
    ∃ after, Attempt.outcome (Computer.answer serve) (fetch pid url destination) computer =
        (.error error, after) ∧
      computer.Became after directory (Function.update (computer.files.inside directory) name none) [url] := by
  have free : reached.files.inside directory name ≠ some .directory := by
    rw [became.inside, Function.update_self]
    exact file
  obtain ⟨after, told, discarded⟩ := outcome_discard_and_throw serve Path beside.staged free error
  have total := became.trans discarded
  rw [became.inside, Function.update_idem, List.append_nil] at total
  refine ⟨after, ?_, total⟩
  unfold fetch
  rw [Attempt.outcome_tryCatch, failed]
  exact told

/-- Without a document, everything is as it was, and no hidden file is left. -/
theorem outcome_fetch_of_error {pid : Nat} {url : String} {error : LauncherError}
    (beside : Beside (stagingPath destination pid) destination directory place name target)
    (free : computer.files.inside directory name ≠ some .directory)
    (fault : (serve url).document url = .error error) :
    ∃ after, Attempt.outcome (Computer.answer serve) (fetch pid url destination) computer =
        (.error error, after) ∧
      computer.Became after directory (Function.update (computer.files.inside directory) name none) [url] := by
  obtain ⟨entry, collected, ended, became, file, _⟩ := outcome_collect serve beside free url
  rw [fault] at ended
  exact outcome_fetch_of_fault serve beside (Attempt.outcome_bind_of_error ended _) became file

/-- A document that was sent where a directory has its place is given up again. -/
theorem outcome_fetch_of_blocked {pid : Nat} {url : String} {contents : Bytes}
    (beside : Beside (stagingPath destination pid) destination directory place name target)
    (free : computer.files.inside directory name ≠ some .directory)
    (blocked : computer.files.inside directory target = some .directory)
    (sent : (serve url).document url = .ok contents) :
    ∃ after, Attempt.outcome (Computer.answer serve) (fetch pid url destination) computer =
        (.error (.fetchFilesystem destination Fault.isDirectory), after) ∧
      computer.Became after directory (Function.update (computer.files.inside directory) name none) [url] := by
  obtain ⟨entry, collected, ended, became, file, whole⟩ := outcome_collect serve beside free url
  rw [sent] at ended
  have found : collected.files.inside directory name = some (.file contents) := by
    rw [became.inside, Function.update_self, whole contents sent]
  have obstacle : collected.files.obstacle? (.replace (stagingPath destination pid) destination) =
      some Fault.isDirectory := by
    rw [MemoryFiles.obstacle?, Computer.isFile_of_found beside.staged found,
      MemoryFiles.find?_of_isEntry beside.placed, became.inside, Function.update_of_ne beside.apart, if_pos blocked]
    rfl
  have refused : Attempt.outcome (Computer.answer serve)
      (faultAt destination (.request (.replace (stagingPath destination pid) destination))) collected =
        (.error (.fetchFilesystem destination Fault.isDirectory), collected) := by
    rw [Attempt.outcome_faultAt, Procedure.run_request]
    change ((collected.changed _).1.mapError _, (collected.changed _).2) = _
    rw [Computer.changed_of_blocked obstacle]
    rfl
  refine outcome_fetch_of_fault serve beside ?_ became file
  rw [Attempt.outcome_bind_of_ok ended]
  exact Attempt.outcome_bind_of_error refused _

/-- A step that has succeeded had nothing in its way. -/
theorem clear_of_outcome {step : Procedure (Except IoFault Unit)} {request : Request} {path : Path} {done : Unit}
    {after : Computer} (answered : ∀ world, step.run (Computer.answer serve) world = world.changed request)
    (ended : Attempt.outcome (Computer.answer serve) (faultAt path step) computer = (.ok done, after)) :
    computer.files.obstacle? request = none := by
  rw [Attempt.outcome_faultAt, answered, Prod.mk.injEq] at ended
  cases result : (computer.changed request).1 with
  | ok done => exact Computer.clear_of_changed result
  | error fault =>
      rw [result] at ended
      cases ended.1

theorem free_of_store {url : String} {response : Response} {done : Unit} {after : Computer}
    (beside : Beside staging destination directory place name target)
    (ended : Attempt.outcome (Computer.answer serve) (store url staging response) computer = (.ok done, after)) :
    computer.files.inside directory name ≠ some .directory := by
  unfold store at ended
  simp only [beside.above] at ended
  obtain ⟨first, prepared, ready⟩ := Computer.createDirectories_became computer beside.same
  have made := outcome_change serve (.request (.createDirectories place)) (fun _ => rfl) prepared place
  rw [Attempt.outcome_bind_of_ok made] at ended
  obtain ⟨_, second, created, _⟩ := Attempt.outcome_bind_eq_ok ended
  have clear : first.files.obstacle? (.createFile staging) = none := clear_of_outcome serve (fun _ => rfl) created
  intro blocked
  rw [MemoryFiles.obstacle?, MemoryFiles.find?_of_isEntry beside.staged, ready.inside, if_pos blocked] at clear
  cases clear

/-- What was collected without a fault is a document that was sent. -/
theorem document_of_collect {url : String} {done : Unit} {after : Computer}
    (beside : Beside staging destination directory place name target)
    (ended : Attempt.outcome (Computer.answer serve) (collect url staging) computer = (.ok done, after)) :
    computer.files.inside directory name ≠ some .directory ∧
      ∃ contents, (serve url).document url = .ok contents := by
  by_cases promised : ∃ reply, serve url = .response reply ∧ reply.isSuccess = true
  · obtain ⟨reply, came, success⟩ := promised
    obtain ⟨asked, asking, untouched⟩ := outcome_get serve computer directory url
    have storing := ended
    unfold collect at storing
    rw [Attempt.outcome_bind_of_ok asking, came] at storing
    simp only [Response.status_ne_404 success, success, if_false, Bool.not_true, Bool.false_eq_true] at storing
    have free := free_of_store serve beside storing
    rw [untouched.inside] at free
    obtain ⟨later, collected, _⟩ := outcome_collect_of_promised serve beside free came success
    rw [collected, Prod.mk.injEq] at ended
    exact ⟨free, reply.body, by rw [came, Response.document_of_success success, ended.1]; rfl⟩
  · have refused : ∀ reply, serve url = .response reply → reply.isSuccess = false := by
      intro reply came
      by_contra success
      exact promised ⟨reply, came, by simpa using success⟩
    obtain ⟨error, asked, _, failed, _⟩ := outcome_collect_of_refused serve computer directory staging refused
    rw [failed] at ended
    cases ended

/-- A download that has succeeded had room for its document, which was sent. -/
theorem document_of_fetch {pid : Nat} {url : String} {done : Path} {after : Computer}
    (beside : Beside (stagingPath destination pid) destination directory place name target)
    (ended : Attempt.outcome (Computer.answer serve) (fetch pid url destination) computer = (.ok done, after)) :
    computer.files.inside directory name ≠ some .directory ∧
      computer.files.inside directory target ≠ some .directory ∧
      ∃ contents, (serve url).document url = .ok contents := by
  unfold fetch at ended
  rw [Attempt.outcome_tryCatch] at ended
  split at ended
  · rename_i fetched
    obtain ⟨_, middle, collected, placing⟩ := Attempt.outcome_bind_eq_ok fetched
    obtain ⟨_, _, replaced, _⟩ := Attempt.outcome_bind_eq_ok placing
    obtain ⟨free, sent⟩ := document_of_collect serve beside collected
    obtain ⟨entry, other, collecting, became, _⟩ := outcome_collect serve beside free url
    rw [collecting, Prod.mk.injEq] at collected
    obtain ⟨_, rfl⟩ := collected
    have clear : other.files.obstacle? (.replace (stagingPath destination pid) destination) = none :=
      clear_of_outcome serve (fun _ => rfl) replaced
    refine ⟨free, ?_, sent⟩
    intro blocked
    rw [MemoryFiles.obstacle?, MemoryFiles.find?_of_isEntry beside.placed, became.inside,
      Function.update_of_ne beside.apart, if_pos blocked] at clear
    split at clear <;> cases clear
  · obtain ⟨_, _, _, thrown⟩ := Attempt.outcome_bind_eq_ok ended
    cases thrown

end JarLauncher.Download
