import JarLauncher.Proofs.Download.Staging
import JarLauncher.Proofs.Download.Steps
import JarLauncher.Proofs.Machine.Pool

/-!
A download on any machine, whatever the server sends and whichever steps fail: either the whole document is in its
place, or the place is as it was and the first fault is told.
-/

namespace JarLauncher.Download

open Files Machine

/-- Whether the files of a machine become what its answers say, and only a part of it where a request fails. -/
def Faithful {World : Type} (answering : Answering World) (files : World → MemoryFiles) : Prop :=
  ∀ request world, Responds (files world) request (answering request world).1 (files (answering request world).2)

/-- Whether a request is about nothing but a hidden file and the directory that it needs. -/
def Hides (hidden place : Path) : Request → Prop
  | .createDirectories path => path = place
  | .createFile path | .append path _ | .flush path | .sync path | .size path | .discard path => path = hidden
  | _ => False

variable {hidden destination directory place : Path} {hiddenAs name : Bytes}

/-- What is asked about a hidden file changes nothing in its directory but that file, also where it fails. -/
theorem inside_of_hides {files after : MemoryFiles} {request : Request} {answer : request.Answer}
    (beside : Beside hidden destination directory place hiddenAs name) (hides : Hides hidden place request)
    (responds : Responds files request answer after) :
    ∃ entry, after.inside directory = Function.update (files.inside directory) hiddenAs entry := by
  have unchanged (same : after.inside directory = files.inside directory) :
      ∃ entry, after.inside directory = Function.update (files.inside directory) hiddenAs entry :=
    ⟨_, by rw [same, Function.update_eq_self]⟩
  cases success : request.succeeded answer with
  | false =>
      cases responds.failed success with
      | nothing => exact unchanged rfl
      | prepared path contents count => exact hides.elim
      | written path contents count clear => exact hides.elim
      | made path count =>
          cases hides
          exact unchanged (Partly.inside_of_made beside.same (.made _ count))
      | created path clear =>
          cases hides
          exact ⟨_, MemoryFiles.inside_put beside.staged _⟩
      | appended path chunk count clear =>
          cases hides
          exact ⟨_, MemoryFiles.inside_put beside.staged _⟩
  | true =>
      obtain ⟨-, rfl⟩ := responds.done success
      cases request with
      | createDirectories path =>
          cases hides
          exact unchanged (MemoryFiles.inside_addDirectory beside.same)
      | createFile path | append path chunk | discard path =>
          cases hides
          exact ⟨_, MemoryFiles.inside_put beside.staged _⟩
      | flush path | sync path | size path => exact unchanged rfl
      | _ => exact hides.elim

theorem hides_collecting (above : hidden.parent? = some place) (transfer : Transfer) :
    ∀ step ∈ transfer.collecting hidden, Hides hidden place step.request := by
  cases transfer with
  | failed message => exact nofun
  | response reply =>
      have writing : ∀ step ∈ reply.writing hidden, Hides hidden place step.request := by
        simp [Response.writing, above, Hides]
      have checking : ∀ step ∈ reply.checking hidden, Hides hidden place step.request := by
        unfold Response.checking
        cases reply.bodyEnd <;> simp [Hides]
      simp only [Transfer.collecting]
      split
      · exact List.forall_mem_append.mpr ⟨writing, checking⟩
      · exact nofun

theorem isOk_of_faultOf {Value : Type} {answer : Except IoFault Value} (fine : faultOf answer = none) :
    answer.isOk = true := by
  cases answer with
  | error fault => cases fine
  | ok value => rfl

theorem isOk_of_fault {Value : Type} {answer : Except IoFault Value} {fault : IoFault}
    (told : faultOf answer = some fault) : answer.isOk = false := by
  cases answer with
  | error fault => rfl
  | ok value => cases told

section Machine

variable {World : Type} {answering : Answering World} {files : World → MemoryFiles} {world after : World}
  (faithful : Faithful answering files) (beside : Beside hidden destination directory place hiddenAs name)

include faithful beside

/-- Steps that hide a file, taken up to a fault or to their end, leave all other files as they were. -/
theorem elsewhere_of_hides {other : Bytes} (apart : other ≠ hiddenAs) (steps : List Step)
    (hides : ∀ step ∈ steps, Hides hidden place step.request) (world : World) :
    (files (firstFault answering steps world).2).inside directory other = (files world).inside directory other := by
  induction steps generalizing world with
  | nil => rfl
  | cons step steps ih =>
      obtain ⟨here, later⟩ := List.forall_mem_cons.mp hides
      obtain ⟨entry, changed⟩ := inside_of_hides beside here (faithful step.request world)
      have still : (files (answering step.request world).2).inside directory other =
          (files world).inside directory other := by
        rw [changed, Function.update_of_ne apart]
      rw [firstFault]
      split
      · exact still
      · rw [ih later, still]

theorem created_of_step
    (done : firstFault answering [⟨hidden, .createFile hidden⟩] world = (none, after)) :
    (files after).inside directory hiddenAs = some (.file []) := by
  obtain ⟨fine, rfl⟩ := firstFault_singleton_eq_none.mp done
  have effect := ((faithful (.createFile hidden) world).done (isOk_of_faultOf fine)).2
  rw [effect, MemoryFiles.after, MemoryFiles.inside_put beside.staged, Function.update_self]

theorem appended_of_steps (chunks : List Bytes) :
    ∀ {world : World} {contents : Bytes},
      (files world).inside directory hiddenAs = some (.file contents) →
      firstFault answering (chunks.map fun chunk => ⟨hidden, .append hidden chunk⟩) world = (none, after) →
      (files after).inside directory hiddenAs = some (.file (contents ++ chunks.flatten)) := by
  induction chunks with
  | nil =>
      intro world contents found done
      cases done
      rw [List.flatten_nil, List.append_nil, found]
  | cons chunk chunks ih =>
      intro world contents found done
      obtain ⟨middle, appending, rest⟩ := firstFault_cons_eq_none.mp done
      obtain ⟨fine, rfl⟩ := firstFault_singleton_eq_none.mp appending
      have longer : (files (answering (.append hidden chunk) world).2).inside directory hiddenAs =
          some (.file (contents ++ chunk)) := by
        have effect := ((faithful (.append hidden chunk) world).done (isOk_of_faultOf fine)).2
        rw [effect, MemoryFiles.inside_after_append beside.staged found, Function.update_self]
      rw [ih longer rest, List.flatten_cons, List.append_assoc]

omit beside in
theorem same_of_step {path : Path} {request : Request} (idle : ∀ files : MemoryFiles, files.after request = files)
    (whole : request.divisible = false)
    (done : firstFault answering [⟨path, request⟩] world = (none, after)) : files after = files world := by
  obtain ⟨-, rfl⟩ := firstFault_singleton_eq_none.mp done
  exact (faithful request world).same (idle _) whole

/-- The body is written step by step, and what is measured in the end is its length. -/
theorem follows_store (url : String) (reply : Response) (world : World) :
    Follows answering (store url hidden reply) world (reply.writing hidden ++ reply.checking hidden) world
      (reply.stored url) := by
  have steps : reply.writing hidden ++ reply.checking hidden =
      ⟨place, .createDirectories place⟩ :: ⟨hidden, .createFile hidden⟩ ::
        ((reply.chunks.map fun chunk => ⟨hidden, .append hidden chunk⟩) ++ reply.checking hidden) := by
    simp [Response.writing, beside.above]
  rw [steps]
  unfold store
  simp only [beside.above]
  refine follows_cons (follows_change place rfl rfl) fun prepared _ => ?_
  refine follows_cons (follows_change hidden rfl rfl) fun started creating => ?_
  refine follows_bind (follows_chunks hidden _ started) fun written appending => ?_
  have held := appended_of_steps faithful beside reply.chunks (created_of_step faithful beside creating) appending
  rw [List.nil_append] at held
  unfold Response.checking Response.stored
  cases reply.bodyEnd with
  | broken message => exact follows_bind_of_error (follows_throw _)
  | complete =>
      refine follows_cons (follows_change hidden rfl rfl) fun flushed flushing => ?_
      refine follows_cons (follows_change hidden rfl rfl) fun synced syncing => ?_
      have same : files synced = files written :=
        (same_of_step faithful (fun _ => rfl) rfl syncing).trans (same_of_step faithful (fun _ => rfl) rfl flushing)
      have measured : ∀ size, (answering (.size hidden) synced).1 = .ok size → size = reply.body.length := by
        intro size told
        obtain ⟨contents, found, long⟩ := (faithful (.size hidden) synced).truthful size told
        rw [same, MemoryFiles.contents?_of_isEntry beside.staged, held] at found
        cases found
        exact long.symm
      refine follows_cons (follows_step hidden rfl rfl measured) fun finished _ => ?_
      by_cases empty : reply.body = []
      · simp only [empty, List.length_nil, if_true]
        exact follows_throw _
      · have long : reply.body.length ≠ 0 := by simpa using empty
        simp only [empty, long, if_false]
        exact follows_pure ()

/-- What is collected, up to a fault or to the end, is what the server has sent. -/
theorem follows_collect (url : String) (world : World) :
    Follows answering (collect url hidden) world ((answering (.get url) world).1.collecting hidden)
      (answering (.get url) world).2 (((answering (.get url) world).1.document url).map fun _ => ()) := by
  unfold Follows collect
  rw [Attempt.outcome_bind, Attempt.outcome_lift, Procedure.run_request]
  rcases answering (.get url) world with ⟨transfer, asked⟩
  cases transfer with
  | failed message => exact follows_throw _
  | response reply =>
      by_cases success : reply.isSuccess = true
      · have promised := Response.status_ne_404 success
        have stored := follows_store faithful beside url reply asked
        rw [Response.document_of_success success]
        simp only [Transfer.collecting, success, promised, if_true, if_false, Bool.not_true, Bool.false_eq_true]
        have whole : ((reply.stored url).map fun _ => reply.body).map (fun _ => ()) = reply.stored url := by
          cases reply.stored url <;> rfl
        rw [whole]
        exact stored
      · by_cases missing : reply.status = 404
        · simp only [Transfer.collecting, Transfer.document, success, missing, if_true, if_false, Bool.false_eq_true]
          exact follows_bind_of_error (follows_throw _)
        · simp only [Transfer.collecting, Transfer.document, success, missing, if_true, if_false, Bool.not_false,
            Bool.false_eq_true]
          exact follows_bind_of_error (follows_throw _)

/-- What comes before the cleaning up, which only a fault brings about. -/
theorem follows_fetch (url : String) (world : World) :
    Follows answering
      (do
        collect url hidden
        faultAt destination (.request (.replace hidden destination))
        return destination)
      world ((answering (.get url) world).1.steps url hidden destination) (answering (.get url) world).2
      (((answering (.get url) world).1.document url).map fun _ => destination) := by
  have collected := follows_collect faithful beside url world
  unfold Transfer.steps
  cases sent : (answering (.get url) world).1.document url with
  | error error =>
      rw [sent] at collected
      rw [List.append_nil]
      exact follows_bind_of_error collected
  | ok contents =>
      rw [sent] at collected
      exact follows_bind collected fun middle _ =>
        follows_cons (follows_change destination rfl rfl) fun placed _ => follows_pure destination

theorem collected_of_steps {url : String} {transfer : Transfer} {contents : Bytes}
    (sent : transfer.document url = .ok contents)
    (done : firstFault answering (transfer.collecting hidden) world = (none, after)) :
    (files after).inside directory hiddenAs = some (.file contents) := by
  obtain ⟨reply, rfl, success, complete, rfl, -⟩ := Transfer.document_eq_ok.mp sent
  simp only [Transfer.collecting, success, if_true, Response.writing, Response.checking, complete, beside.above,
    Option.toList_some, List.map_cons, List.map_nil, List.append_assoc, List.cons_append] at done
  obtain ⟨prepared, -, done⟩ := firstFault_cons_eq_none.mp done
  obtain ⟨started, creating, done⟩ := firstFault_cons_eq_none.mp done
  obtain ⟨written, appending, done⟩ := firstFault_append_eq_none.mp done
  obtain ⟨flushed, flushing, done⟩ := firstFault_cons_eq_none.mp done
  obtain ⟨synced, syncing, measuring⟩ := firstFault_cons_eq_none.mp done
  have held := appended_of_steps faithful beside reply.chunks (created_of_step faithful beside creating) appending
  rw [same_of_step faithful (fun _ => rfl) rfl measuring, same_of_step faithful (fun _ => rfl) rfl syncing,
    same_of_step faithful (fun _ => rfl) rfl flushing, held, List.nil_append]
  rfl

/-- A document that has come through all steps is in its place, and the hidden file is gone. -/
theorem placed_of_steps {url : String} {transfer : Transfer} {contents : Bytes}
    (sent : transfer.document url = .ok contents)
    (done : firstFault answering (transfer.steps url hidden destination) world = (none, after)) :
    (files after).inside directory name = some (.file contents) ∧
      (files after).inside directory hiddenAs = none := by
  rw [Transfer.steps, sent] at done
  obtain ⟨collected, collecting, placing⟩ := firstFault_append_eq_none.mp done
  obtain ⟨fine, rfl⟩ := firstFault_singleton_eq_none.mp placing
  have found := collected_of_steps faithful beside sent collecting
  have effect := ((faithful (.replace hidden destination) collected).done (isOk_of_faultOf fine)).2
  rw [effect, MemoryFiles.after, MemoryFiles.inside_moved beside.staged beside.placed found]
  refine ⟨Function.update_self .., ?_⟩
  rw [Function.update_of_ne beside.apart.symm, Function.update_self]

/-- Up to a fault, or as long as there is no document, nothing has happened to the destination. -/
theorem kept_of_steps {url : String} {transfer : Transfer} {fault : Option LauncherError}
    (unfinished : fault = none → ∃ error, transfer.document url = .error error)
    (walked : firstFault answering (transfer.steps url hidden destination) world = (fault, after)) :
    (files after).inside directory name = (files world).inside directory name := by
  have kept := elsewhere_of_hides faithful beside beside.apart (transfer.collecting hidden)
    (hides_collecting beside.above transfer) world
  unfold Transfer.steps at walked
  cases sent : transfer.document url with
  | error error =>
      rw [sent, List.append_nil] at walked
      rw [walked] at kept
      exact kept
  | ok contents =>
      rw [sent, firstFault_append] at walked
      rcases collecting : firstFault answering (transfer.collecting hidden) world with ⟨_ | error, collected⟩
      · rw [collecting] at walked kept
        change firstFault answering [⟨destination, .replace hidden destination⟩] collected = _ at walked
        cases fault with
        | none =>
            obtain ⟨error, impossible⟩ := unfinished rfl
            rw [sent] at impossible
            cases impossible
        | some error =>
            obtain ⟨reason, failed, -, rfl⟩ := firstFault_singleton_eq_some.mp walked
            have same := (faithful (.replace hidden destination) collected).same_of_failed (isOk_of_fault failed) rfl
            exact (congrArg (MemoryFiles.inside · directory name) same).trans kept
      · rw [collecting] at walked kept
        cases walked
        exact kept

end Machine

/-- What a download comes to. Whether it succeeds, and what is told if it does not, follows from what the server has
sent and from the first fault of a step. -/
structure AllOrNothing (url : String) (hidden destination : Path) (transfer : Transfer)
    (fault : Option LauncherError) (before after : MemoryFiles) (result : Except LauncherError Path) : Prop where
  succeeds_iff : result = .ok destination ↔
    fault = none ∧ ∃ reply, transfer = .response reply ∧ 200 ≤ reply.status ∧ reply.status < 300 ∧
      reply.bodyEnd = .complete ∧ 0 < reply.chunks.flatten.length
  /-- The chunks stand one after another in the destination, and nothing is left beside it. -/
  whole : ∀ path, result = .ok path → path = destination ∧
    ∃ reply, transfer = .response reply ∧ after.find? destination = some (.file reply.chunks.flatten) ∧
      after.find? hidden = none
  untouched : ∀ error, result = .error error → after.find? destination = before.find? destination
  /-- A fault of a step comes before all that the server's answer leads to behind it. -/
  toldFault : ∀ error, result = .error error →
    fault = some error ∨ fault = none ∧ transfer.document url = .error error

theorem exists_document_iff (url : String) {transfer : Transfer} :
    (∃ contents, transfer.document url = .ok contents) ↔
      ∃ reply, transfer = .response reply ∧ 200 ≤ reply.status ∧ reply.status < 300 ∧
        reply.bodyEnd = .complete ∧ 0 < reply.chunks.flatten.length := by
  simp only [Transfer.document_eq_ok, Response.isSuccess, Response.body, Bool.and_eq_true, decide_eq_true_eq,
    List.length_pos_iff]
  constructor
  · rintro ⟨contents, reply, came, ⟨low, high⟩, complete, rfl, present⟩
    exact ⟨reply, came, low, high, complete, present⟩
  · rintro ⟨reply, came, low, high, complete, present⟩
    exact ⟨_, reply, came, ⟨low, high⟩, complete, rfl, present⟩

section Outcome

variable {World : Type} {answering : Answering World} {files : World → MemoryFiles} {asked after : World}
  {url : String} {transfer : Transfer} {fault : Option LauncherError}

theorem allOrNothing_of_document (faithful : Faithful answering files)
    (beside : Beside hidden destination directory place hiddenAs name) {contents : Bytes}
    (sent : transfer.document url = .ok contents)
    (walked : firstFault answering (transfer.steps url hidden destination) asked = (none, after)) :
    AllOrNothing url hidden destination transfer none (files asked) (files after) (.ok destination) where
  succeeds_iff := iff_of_true rfl ⟨rfl, (exists_document_iff url).mp ⟨contents, sent⟩⟩
  whole path same := by
    obtain ⟨placed, gone⟩ := placed_of_steps faithful beside sent walked
    obtain ⟨reply, came, -, -, body, -⟩ := Transfer.document_eq_ok.mp sent
    refine ⟨(Except.ok.inj same).symm, reply, came, ?_, ?_⟩
    · rw [MemoryFiles.find?_of_isEntry beside.placed, placed, ← body]
      rfl
    · rw [MemoryFiles.find?_of_isEntry beside.staged, gone]
  untouched := nofun
  toldFault := nofun

theorem allOrNothing_of_fault (faithful : Faithful answering files)
    (beside : Beside hidden destination directory place hiddenAs name) {error : LauncherError}
    (reason : fault = some error ∨ fault = none ∧ transfer.document url = .error error)
    (walked : firstFault answering (transfer.steps url hidden destination) asked = (fault, after)) :
    AllOrNothing url hidden destination transfer fault (files asked)
      (files (answering (.discard hidden) after).2) (.error error) where
  succeeds_iff := by
    refine iff_of_false nofun ?_
    rintro ⟨rfl, promised⟩
    obtain ⟨contents, sent⟩ := (exists_document_iff url).mpr promised
    rcases reason with impossible | ⟨-, refused⟩
    · cases impossible
    · rw [sent] at refused
      cases refused
  whole := nofun
  untouched other same := by
    have unfinished : fault = none → ∃ error, transfer.document url = .error error := by
      rintro rfl
      rcases reason with impossible | ⟨-, refused⟩
      · cases impossible
      · exact ⟨error, refused⟩
    have kept := kept_of_steps faithful beside unfinished walked
    have hides : Hides hidden place (.discard hidden) := rfl
    obtain ⟨entry, discarded⟩ := inside_of_hides beside hides (faithful (.discard hidden) after)
    rw [MemoryFiles.find?_of_isEntry beside.placed, MemoryFiles.find?_of_isEntry beside.placed, discarded,
      Function.update_of_ne beside.apart, kept]
  toldFault other same := by
    cases same
    exact reason

end Outcome

/-- On every machine, whatever a server sends and whichever steps fail, a download is whole or has not happened. -/
theorem fetch_all_or_nothing {World : Type} {answering : Answering World} {files : World → MemoryFiles}
    (faithful : Faithful answering files) (pid : Nat) (url : String)
    (named : destination.fileName? = some name) (world : World) :
    let hidden := stagingPath destination pid
    let got := answering (.get url) world
    let walked := firstFault answering (got.1.steps url hidden destination) got.2
    let ended := Attempt.outcome answering (fetch pid url destination) world
    AllOrNothing url hidden destination got.1 walked.1 (files world) (files ended.2) ended.1 := by
  obtain ⟨directory, place, beside⟩ := beside_stagingPath named pid
  have follows := follows_fetch faithful beside url world
  have still : files (answering (.get url) world).2 = files world := (faithful (.get url) world).same rfl rfl
  have ended : Attempt.outcome answering (fetch pid url destination) world = _ := Attempt.outcome_tryCatch _ _
  rw [follows] at ended
  dsimp only
  rw [ended, ← still]
  generalize (answering (.get url) world).1 = transfer
  rcases walked : firstFault answering (transfer.steps url (stagingPath destination pid) destination)
    (answering (.get url) world).2 with ⟨_ | error, reached⟩
  · cases sent : transfer.document url with
    | ok contents => exact allOrNothing_of_document faithful beside sent walked
    | error error => exact allOrNothing_of_fault faithful beside (.inr ⟨rfl, sent⟩) walked
  · exact allOrNothing_of_fault faithful beside (.inl rfl) walked

/-- A server that sends a document in pieces, of which one is empty. -/
def servePieces (_ : String) : Transfer :=
  .response { status := 206, phrase := [], chunks := [[0x50], [], [0x4B, 0x03]], bodyEnd := .complete }

/-- Where the document goes, and what is there before. -/
def enginePlace : Path :=
  .ofString "cache/engine.jar"

def outdated : Computer where
  files := MemoryFiles.addFile {} enginePlace [0x00]

/-- What comes of a download over an old document, on a computer on which no step fails. -/
def piecesFetched : Except LauncherError Path × Computer :=
  Attempt.outcome (Computer.answer servePieces) (fetch 7 "http://localhost/" enginePlace) outdated

theorem fetch_pieces :
    piecesFetched.1 = .ok enginePlace ∧
      piecesFetched.2.files.find? enginePlace = some (.file [0x50, 0x4B, 0x03]) := by
  have named : enginePlace.fileName? = some (Utf8.encode "engine.jar") := by decide
  have faithful : Faithful (Computer.answer servePieces) Computer.files :=
    fun request computer => responds_answer servePieces computer request
  have fine : (firstFault (Computer.answer servePieces)
      ((servePieces "").steps "http://localhost/" (stagingPath enginePlace 7) enginePlace)
      { outdated with asked := ["http://localhost/"] }).1 = none := by decide +kernel
  have fetched : AllOrNothing _ _ enginePlace (servePieces "") _ _ piecesFetched.2.files piecesFetched.1 :=
    fetch_all_or_nothing faithful 7 "http://localhost/" named outdated
  have succeeded : piecesFetched.1 = .ok enginePlace :=
    fetched.succeeds_iff.mpr ⟨fine, _, rfl, by decide, by decide, rfl, by decide⟩
  obtain ⟨-, reply, came, placed, -⟩ := fetched.whole enginePlace succeeded
  cases came
  exact ⟨succeeded, placed⟩

end JarLauncher.Download
