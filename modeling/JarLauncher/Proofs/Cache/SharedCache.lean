import JarLauncher.Proofs.Cache.Installation
import JarLauncher.Proofs.Cache.InstallerProtocol
import JarLauncher.Proofs.Machine.Pool

/-!
Installations side by side in one cache directory. What each of them knows of its own files stays true whatever
the others do, so that the engine is always a whole download and the marker always a whole version. But they are
replaced one after the other, and they need not belong together.
-/

namespace JarLauncher

namespace Machine.Exchange

/-- Whether a download has taken its place. -/
def places : Exchange → Bool
  | ⟨_, .replace _ _, .ok ()⟩ => true
  | _ => false

/-- Whether a marker has taken its place. -/
def marks : Exchange → Bool
  | ⟨_, .renameFile _ _, .ok ()⟩ => true
  | _ => false

end Machine.Exchange

namespace Cache

open Download Files Machine

def DownloadedBy (log : List Exchange) (pid : Nat) (url : String) (contents : Bytes) : Prop :=
  ∃ transfer : Transfer, ⟨pid, .get url, transfer⟩ ∈ log ∧ transfer.document url = .ok contents

/-- What the process `pid` remembers is true. -/
structure Knows (directory : Path) (pid : Nat) (descriptor : Descriptor) (files : MemoryFiles)
    (log : List Exchange) (progress : Progress) : Prop where
  response : ∀ response, progress.response = some response →
    ⟨pid, .get descriptor.remoteLocation, .response response⟩ ∈ log
  collected : ∀ contents, progress.collected = some contents →
    files.inside directory (stagingName pid) = some (.file contents)
  measured : 0 < progress.measured →
    ∀ contents, progress.collected = some contents → contents.length = progress.measured
  prepared : progress.prepared = true →
    files.inside directory (temporaryName pid) = some (.file (Utf8.encode descriptor.expectedVersion))
  placed : progress.placed = true → ∃ exchange ∈ log, exchange.process = pid ∧ exchange.places = true

/-- All that an exchange of the process `pid` can do to the cache directory. -/
inductive Deed (directory : Path) (pid : Nat) (descriptor : Descriptor) (files : MemoryFiles)
    (log : List Exchange) (exchange : Exchange) (after : MemoryFiles) : Prop
  | hidden (name : Bytes) (entry : Option Entry) (own : name = stagingName pid ∨ name = temporaryName pid)
      (changed : after.inside directory = Function.update (files.inside directory) name entry)
      (places : exchange.places = false) (marks : exchange.marks = false)
  | placed (contents : Bytes) (downloaded : DownloadedBy log pid descriptor.remoteLocation contents)
      (changed : after.inside directory =
        Function.update (Function.update (files.inside directory) (stagingName pid) none)
          artifactName (some (.file contents)))
      (places : exchange.places = true) (marks : exchange.marks = false)
  | marked (earlier : ∃ exchange ∈ log, exchange.process = pid ∧ exchange.places = true)
      (changed : after.inside directory =
        Function.update (Function.update (files.inside directory) (temporaryName pid) none)
          markerName (some (.file (Utf8.encode descriptor.expectedVersion))))
      (places : exchange.places = false) (marks : exchange.marks = true)

/-- The file of its own that a request of a process is about. -/
def ownName (pid : Nat) : Request → Bytes
  | .writeFile _ _ | .removeFile _ => temporaryName pid
  | _ => stagingName pid

section

variable {directory : Path} {pid : Nat} {descriptor : Descriptor} {files after : MemoryFiles}
  {log : List Exchange} {progress : Progress} {request : Request} {answer : request.Answer}
  {exchange : Exchange}

theorem ownName_eq (pid : Nat) (request : Request) :
    ownName pid request = stagingName pid ∨ ownName pid request = temporaryName pid := by
  cases request with
  | writeFile path contents => exact .inr rfl
  | removeFile path => exact .inr rfl
  | _ => exact .inl rfl

/-- A request that fails has changed at most the file that it is about. -/
theorem inside_of_partly (permitted : Permitted directory pid descriptor progress request)
    (partly : Partly files request after) :
    ∃ entry, after.inside directory = Function.update (files.inside directory) (ownName pid request) entry := by
  have unchanged (same : after.inside directory = files.inside directory) :
      ∃ entry, after.inside directory =
        Function.update (files.inside directory) (ownName pid request) entry :=
    ⟨_, by rw [same, Function.update_eq_self]⟩
  cases partly with
  | nothing => exact unchanged rfl
  | prepared path contents count =>
      apply unchanged
      apply MemoryFiles.inside_addDirectories
      rw [permitted.1, List.dropLast_concat]
      exact List.length_take_le' ..
  | written path contents count clear => exact ⟨_, MemoryFiles.inside_addFile permitted.1 _⟩
  | made path count => exact unchanged (Partly.inside_of_made permitted (.made path count))
  | created path clear => exact ⟨_, MemoryFiles.inside_put permitted _⟩
  | appended path chunk count clear => exact ⟨_, MemoryFiles.inside_put permitted _⟩

/-- What fails has not touched the files of others. -/
theorem elsewhere_of_partly (permitted : Permitted directory pid descriptor progress request)
    (partly : Partly files request after) {name : Bytes} (staging : name ≠ stagingName pid)
    (temporary : name ≠ temporaryName pid) : after.inside directory name = files.inside directory name := by
  obtain ⟨entry, changed⟩ := inside_of_partly permitted partly
  rw [changed]
  rcases ownName_eq pid request with same | same
  · rw [same, Function.update_of_ne staging]
  · rw [same, Function.update_of_ne temporary]

theorem places_of_failed (pid : Nat) (failed : request.succeeded answer = false) :
    Exchange.places ⟨pid, request, answer⟩ = false ∧ Exchange.marks ⟨pid, request, answer⟩ = false := by
  cases request with
  | replace source target =>
      cases answer with
      | ok done => cases failed
      | error fault => exact ⟨rfl, rfl⟩
  | renameFile source target =>
      cases answer with
      | ok done => cases failed
      | error report => exact ⟨rfl, rfl⟩
  | _ => exact ⟨rfl, rfl⟩

theorem Knows.downloaded (knows : Knows directory pid descriptor files log progress)
    (complete : progress.Complete) :
    ∃ contents, files.inside directory (stagingName pid) = some (.file contents) ∧
      DownloadedBy log pid descriptor.remoteLocation contents := by
  obtain ⟨response, got, success, ended, collected, measured⟩ := complete
  have long := knows.measured measured response.body collected
  have present : response.body ≠ [] := by
    intro empty
    rw [empty, List.length_nil] at long
    omega
  refine ⟨response.body, knows.collected _ collected, _, knows.response response got, ?_⟩
  exact Transfer.document_eq_ok.mpr ⟨response, rfl, success, ended, rfl, present⟩

/-- Whatever the process `pid` is permitted to do, it does one of these. -/
theorem deed_of_permitted (knows : Knows directory pid descriptor files log progress)
    (permitted : Permitted directory pid descriptor progress request)
    (responds : Responds files request answer after) :
    Deed directory pid descriptor files log ⟨pid, request, answer⟩ after := by
  have still : files.inside directory =
      Function.update (files.inside directory) (stagingName pid) (files.inside directory (stagingName pid)) :=
    (Function.update_eq_self _ _).symm
  cases success : request.succeeded answer with
  | false =>
      obtain ⟨entry, changed⟩ := inside_of_partly permitted (responds.failed success)
      obtain ⟨places, marks⟩ := places_of_failed pid success
      exact .hidden _ entry (ownName_eq pid request) changed places marks
  | true =>
      obtain ⟨clear, rfl⟩ := responds.done success
      cases request with
      | writeFile path contents =>
          exact .hidden _ _ (.inr rfl) (MemoryFiles.inside_addFile permitted.1 contents) rfl rfl
      | removeFile path => exact .hidden _ _ (.inr rfl) (MemoryFiles.inside_put permitted none) rfl rfl
      | createDirectories path =>
          exact .hidden _ _ (.inl rfl) ((MemoryFiles.inside_addDirectory permitted).trans still) rfl rfl
      | createFile path => exact .hidden _ _ (.inl rfl) (MemoryFiles.inside_put permitted _) rfl rfl
      | append path chunk => exact .hidden _ _ (.inl rfl) (MemoryFiles.inside_put permitted _) rfl rfl
      | discard path => exact .hidden _ _ (.inl rfl) (MemoryFiles.inside_put permitted none) rfl rfl
      | replace source target =>
          obtain ⟨sourceLeads, targetLeads, complete⟩ := permitted
          obtain ⟨contents, found, downloaded⟩ := knows.downloaded complete
          cases answer with
          | error fault => cases success
          | ok done =>
              exact .placed contents downloaded
                (MemoryFiles.inside_moved sourceLeads targetLeads found) rfl rfl
      | renameFile source target =>
          obtain ⟨sourceLeads, targetLeads, prepared, placed⟩ := permitted
          cases answer with
          | error fault => cases success
          | ok done =>
              exact .marked (knows.placed placed)
                (MemoryFiles.inside_moved sourceLeads targetLeads (knows.prepared prepared)) rfl rfl
      | readSettings path => exact permitted.elim
      | askVersion java => exact permitted.elim
      | supervise program args => exact permitted.elim
      | say line => exact permitted.elim
      | _ => exact .hidden _ _ (.inl rfl) still rfl rfl

namespace Knows

variable (knows : Knows directory pid descriptor files log progress)

include knows

/-- What a process knows stays true while its own files stay as they are. -/
theorem kept {later : List Exchange} (staging : after.inside directory (stagingName pid) =
      files.inside directory (stagingName pid))
    (temporary : progress.prepared = true →
      after.inside directory (temporaryName pid) = files.inside directory (temporaryName pid))
    (longer : log ⊆ later) : Knows directory pid descriptor after later progress where
  response response got := longer (knows.response response got)
  collected contents held := by
    rw [staging]
    exact knows.collected contents held
  measured := knows.measured
  prepared held := by
    rw [temporary held]
    exact knows.prepared held
  placed held := by
    obtain ⟨earlier, member, own⟩ := knows.placed held
    exact ⟨earlier, longer member, own⟩

theorem onStaging {entry : Option Entry}
    (changed : after.inside directory = Function.update (files.inside directory) (stagingName pid) entry)
    (collected : Option Bytes) (held : ∀ contents, collected = some contents → entry = some (.file contents)) :
    Knows directory pid descriptor after (exchange :: log) { progress with collected, measured := 0 } where
  response response got := List.mem_cons_of_mem _ (knows.response response got)
  collected contents found := by
    rw [changed, Function.update_self]
    exact held contents found
  measured positive := absurd positive (Nat.lt_irrefl 0)
  prepared found := by
    rw [changed, Function.update_of_ne (stagingName_ne_temporaryName pid pid).symm]
    exact knows.prepared found
  placed found := by
    obtain ⟨earlier, member, own⟩ := knows.placed found
    exact ⟨earlier, List.mem_cons_of_mem _ member, own⟩

theorem onTemporary {entry : Option Entry}
    (changed : after.inside directory = Function.update (files.inside directory) (temporaryName pid) entry)
    (prepared : Bool)
    (held : prepared = true → entry = some (.file (Utf8.encode descriptor.expectedVersion))) :
    Knows directory pid descriptor after (exchange :: log) { progress with prepared } where
  response response got := List.mem_cons_of_mem _ (knows.response response got)
  collected contents found := by
    rw [changed, Function.update_of_ne (stagingName_ne_temporaryName pid pid)]
    exact knows.collected contents found
  measured := knows.measured
  prepared found := by
    rw [changed, Function.update_self]
    exact held found
  placed found := by
    obtain ⟨earlier, member, own⟩ := knows.placed found
    exact ⟨earlier, List.mem_cons_of_mem _ member, own⟩

theorem still (same : after.inside directory = files.inside directory) :
    Knows directory pid descriptor after (exchange :: log) progress :=
  knows.kept (by rw [same]) (fun _ => by rw [same]) (List.subset_cons_self _ _)

theorem unchanged (same : after = files) : Knows directory pid descriptor after (exchange :: log) progress :=
  knows.still (congrArg (MemoryFiles.inside · directory) same)

theorem learn_get {url : String} {transfer : Transfer} (wanted : url = descriptor.remoteLocation)
    (responds : Responds files (.get url) transfer after) :
    Knows directory pid descriptor after (⟨pid, .get url, transfer⟩ :: log)
      (progress.learn (.get url) transfer) := by
  have known : Knows directory pid descriptor after (⟨pid, .get url, transfer⟩ :: log) progress :=
    knows.unchanged (responds.same rfl rfl)
  cases transfer with
  | failed message => exact known
  | response response =>
      refine { known with response := ?_ }
      rintro _ ⟨⟩
      rw [wanted]
      exact List.mem_cons_self

theorem learn_size {path : Path} {answer : Except IoFault Nat} (leads : path.IsEntry directory (stagingName pid))
    (responds : Responds files (.size path) answer after) :
    Knows directory pid descriptor after (⟨pid, .size path, answer⟩ :: log)
      (progress.learn (.size path) answer) := by
  have known : Knows directory pid descriptor after (⟨pid, .size path, answer⟩ :: log) progress :=
    knows.unchanged (responds.same rfl rfl)
  cases answer with
  | error fault => exact known
  | ok size =>
      refine { known with measured := ?_ }
      intro _ contents collected
      obtain ⟨found, read, long⟩ := responds.truthful size rfl
      rw [MemoryFiles.contents?_of_isEntry leads, knows.collected contents collected] at read
      cases read
      exact long

theorem learn_createDirectories {path : Path} {answer : Except IoFault Unit}
    (same : path.components = directory.components)
    (responds : Responds files (.createDirectories path) answer after) :
    Knows directory pid descriptor after (⟨pid, .createDirectories path, answer⟩ :: log)
      (progress.learn (.createDirectories path) answer) := by
  cases success : (Request.createDirectories path).succeeded answer with
  | false => exact knows.still ((responds.failed success).inside_of_made same)
  | true =>
      obtain ⟨_, rfl⟩ := responds.done success
      exact knows.still (MemoryFiles.inside_addDirectory same)

theorem learn_createFile {path : Path} {answer : Except IoFault Unit}
    (leads : path.IsEntry directory (stagingName pid))
    (responds : Responds files (.createFile path) answer after) :
    Knows directory pid descriptor after (⟨pid, .createFile path, answer⟩ :: log)
      (progress.learn (.createFile path) answer) := by
  cases answer with
  | ok done =>
      obtain ⟨_, rfl⟩ := responds.done rfl
      refine knows.onStaging (MemoryFiles.inside_put leads _) (some []) ?_
      rintro _ ⟨⟩
      rfl
  | error fault =>
      have permitted : Permitted directory pid descriptor progress (.createFile path) := leads
      obtain ⟨entry, changed⟩ := inside_of_partly permitted (responds.failed rfl)
      exact knows.onStaging changed none nofun

theorem learn_append {path : Path} {chunk : Bytes} {answer : Except IoFault Unit}
    (leads : path.IsEntry directory (stagingName pid))
    (responds : Responds files (.append path chunk) answer after) :
    Knows directory pid descriptor after (⟨pid, .append path chunk, answer⟩ :: log)
      (progress.learn (.append path chunk) answer) := by
  cases answer with
  | ok done =>
      obtain ⟨_, rfl⟩ := responds.done rfl
      refine knows.onStaging (MemoryFiles.inside_put leads _) (progress.collected.map (· ++ chunk)) ?_
      intro contents found
      obtain ⟨before, collected, rfl⟩ := Option.map_eq_some_iff.mp found
      rw [MemoryFiles.contents?_of_isEntry leads, knows.collected before collected]
      rfl
  | error fault =>
      have permitted : Permitted directory pid descriptor progress (.append path chunk) := leads
      obtain ⟨entry, changed⟩ := inside_of_partly permitted (responds.failed rfl)
      exact knows.onStaging changed none nofun

theorem learn_writeFile {path : Path} {contents : Bytes} {answer : Except Report Unit}
    (permitted : Permitted directory pid descriptor progress (.writeFile path contents))
    (responds : Responds files (.writeFile path contents) answer after) :
    Knows directory pid descriptor after (⟨pid, .writeFile path contents, answer⟩ :: log)
      (progress.learn (.writeFile path contents) answer) := by
  cases answer with
  | ok done =>
      obtain ⟨_, rfl⟩ := responds.done rfl
      refine knows.onTemporary (MemoryFiles.inside_addFile permitted.1 contents) true ?_
      intro _
      rw [permitted.2.1]
  | error report =>
      obtain ⟨entry, changed⟩ := inside_of_partly permitted (responds.failed rfl)
      exact knows.onTemporary changed false nofun

/-- A process that has placed an engine knows of its marker no more. -/
theorem learn_replace {source target : Path} {answer : Except IoFault Unit}
    (responds : Responds files (.replace source target) answer after) :
    Knows directory pid descriptor after (⟨pid, .replace source target, answer⟩ :: log)
      (progress.learn (.replace source target) answer) := by
  cases answer with
  | ok done =>
      exact {
        response := fun response got => List.mem_cons_of_mem _ (knows.response response got)
        collected := nofun
        measured := fun positive => absurd positive (Nat.lt_irrefl 0)
        prepared := nofun
        placed := fun _ => ⟨_, List.mem_cons_self, rfl, rfl⟩ }
  | error fault => exact knows.unchanged (responds.same_of_failed rfl rfl)

theorem learn_renameFile {source target : Path} {answer : Except Report Unit}
    (permitted : Permitted directory pid descriptor progress (.renameFile source target))
    (responds : Responds files (.renameFile source target) answer after) :
    Knows directory pid descriptor after (⟨pid, .renameFile source target, answer⟩ :: log)
      (progress.learn (.renameFile source target) answer) := by
  cases answer with
  | ok done =>
      obtain ⟨sourceLeads, targetLeads, prepared, _⟩ := permitted
      obtain ⟨_, rfl⟩ := responds.done rfl
      have changed := MemoryFiles.inside_moved sourceLeads targetLeads (knows.prepared prepared)
      have forgetting : Knows directory pid descriptor files log { progress with prepared := false } :=
        { knows with prepared := nofun }
      refine forgetting.kept ?_ nofun (List.subset_cons_self _ _)
      rw [show (files.after (.renameFile source target)).inside directory = _ from changed,
        Function.update_of_ne (stagingName_ne_markerName pid),
        Function.update_of_ne (stagingName_ne_temporaryName pid pid)]
  | error report => exact knows.unchanged (responds.same_of_failed rfl rfl)

/-- A process remembers its own exchanges rightly. -/
theorem learn (permitted : Permitted directory pid descriptor progress request)
    (responds : Responds files request answer after) :
    Knows directory pid descriptor after (⟨pid, request, answer⟩ :: log) (progress.learn request answer) := by
  cases request with
  | isFile path => exact knows.unchanged (responds.same rfl rfl)
  | readText path => exact knows.unchanged (responds.same rfl rfl)
  | openFile path => exact knows.unchanged (responds.same rfl rfl)
  | flush path => exact knows.unchanged (responds.same rfl rfl)
  | sync path => exact knows.unchanged (responds.same rfl rfl)
  | get url => exact knows.learn_get permitted responds
  | size path => exact knows.learn_size permitted responds
  | createDirectories path => exact knows.learn_createDirectories permitted responds
  | createFile path => exact knows.learn_createFile permitted responds
  | append path chunk => exact knows.learn_append permitted responds
  | discard path =>
      cases answer with
      | ok done =>
          obtain ⟨_, rfl⟩ := responds.done rfl
          exact knows.onStaging (MemoryFiles.inside_put permitted none) none nofun
      | error fault => exact knows.unchanged (responds.same_of_failed rfl rfl)
  | writeFile path contents => exact knows.learn_writeFile permitted responds
  | removeFile path =>
      cases answer with
      | ok done =>
          obtain ⟨_, rfl⟩ := responds.done rfl
          exact knows.onTemporary (MemoryFiles.inside_put permitted none) false nofun
      | error report => exact knows.unchanged (responds.same_of_failed rfl rfl)
  | replace source target => exact knows.learn_replace responds
  | renameFile source target => exact knows.learn_renameFile permitted responds
  | readSettings path => exact permitted.elim
  | askVersion java => exact permitted.elim
  | supervise program args => exact permitted.elim
  | say line => exact permitted.elim

end Knows

/-- What a process knows is not touched by what another process does to files of its own. -/
theorem Knows.beside {other : Nat} (knows : Knows directory pid descriptor files log progress)
    (apart : pid ≠ other) {later : List Exchange} (longer : log ⊆ later)
    (elsewhere : ∀ name, name ≠ stagingName other → name ≠ temporaryName other → name ≠ artifactName →
      name ≠ markerName → after.inside directory name = files.inside directory name) :
    Knows directory pid descriptor after later progress := by
  have staging := elsewhere (stagingName pid) (mt stagingName_inj.mp apart) (stagingName_ne_temporaryName _ _)
    (stagingName_ne_artifactName pid) (stagingName_ne_markerName pid)
  have temporary := elsewhere (temporaryName pid) (stagingName_ne_temporaryName _ _).symm
    (mt temporaryName_inj.mp apart) (temporaryName_ne_artifactName pid) (temporaryName_ne_markerName pid)
  exact knows.kept staging (fun _ => temporary) longer

theorem inside_of_changed {name other : Bytes} {entry : Option Entry}
    (changed : after.inside directory = Function.update (files.inside directory) name entry)
    (apart : other ≠ name) : after.inside directory other = files.inside directory other := by
  rw [changed, Function.update_of_ne apart]

/-- An exchange changes nothing but the files of its process, the engine and the marker. -/
theorem Deed.elsewhere (deed : Deed directory pid descriptor files log exchange after) (name : Bytes)
    (staging : name ≠ stagingName pid) (temporary : name ≠ temporaryName pid) (artifact : name ≠ artifactName)
    (marker : name ≠ markerName) : after.inside directory name = files.inside directory name := by
  cases deed with
  | hidden own entry isOwn changed places marks =>
      apply inside_of_changed changed
      rcases isOwn with rfl | rfl
      · exact staging
      · exact temporary
  | placed contents downloaded changed places marks =>
      rw [changed, Function.update_of_ne artifact, Function.update_of_ne staging]
  | marked earlier changed places marks =>
      rw [changed, Function.update_of_ne marker, Function.update_of_ne temporary]

end

/-- The process that was the last to put an engine in its place. -/
def placer? (log : List Exchange) : Option Nat :=
  (log.find? Exchange.places).map Exchange.process

def marker? (log : List Exchange) : Option Nat :=
  (log.find? Exchange.marks).map Exchange.process

/-- Where the engine comes from: it is the whole document that the last process to place one has got. -/
inductive EngineOrigin (directory : Path) (crew : Nat → Option Descriptor) (initial files : MemoryFiles)
    (log : List Exchange) : Prop
  | untouched (last : placer? log = none)
      (same : files.inside directory artifactName = initial.inside directory artifactName)
  | placed (pid : Nat) (descriptor : Descriptor) (contents : Bytes) (last : placer? log = some pid)
      (installs : crew pid = some descriptor)
      (downloaded : DownloadedBy log pid descriptor.remoteLocation contents)
      (found : files.inside directory artifactName = some (.file contents))

/-- Where the marker comes from: it is the version of a process that had placed an engine before. -/
inductive MarkerOrigin (directory : Path) (crew : Nat → Option Descriptor) (initial files : MemoryFiles)
    (log : List Exchange) : Prop
  | untouched (last : marker? log = none)
      (same : files.inside directory markerName = initial.inside directory markerName)
  | marked (pid : Nat) (descriptor : Descriptor) (last : marker? log = some pid)
      (installs : crew pid = some descriptor)
      (earlier : ∃ exchange ∈ log, exchange.process = pid ∧ exchange.places = true)
      (found : files.inside directory markerName = some (.file (Utf8.encode descriptor.expectedVersion)))

/-- What holds of installations side by side after any number of steps. -/
structure Sound {Value : Type} (directory : Path) (crew : Nat → Option Descriptor) (initial : MemoryFiles)
    (pool : Pool Value) : Prop where
  processes : ∀ pid procedure, pool.processes pid = some procedure →
    ∃ descriptor progress, crew pid = some descriptor ∧
      procedure.Keeps (installerProtocol directory pid descriptor) (fun _ _ => True) progress ∧
      Knows directory pid descriptor pool.files pool.log progress
  engine : EngineOrigin directory crew initial pool.files pool.log
  marker : MarkerOrigin directory crew initial pool.files pool.log

section

variable {directory : Path} {pid : Nat} {descriptor : Descriptor} {crew : Nat → Option Descriptor}
  {initial files after : MemoryFiles} {log : List Exchange} {exchange : Exchange}

theorem placer?_cons_of_not (places : exchange.places = false) : placer? (exchange :: log) = placer? log := by
  simp [placer?, places]

theorem placer?_cons (places : exchange.places = true) :
    placer? (exchange :: log) = some exchange.process := by
  simp [placer?, places]

theorem marker?_cons_of_not (marks : exchange.marks = false) : marker? (exchange :: log) = marker? log := by
  simp [marker?, marks]

theorem marker?_cons (marks : exchange.marks = true) :
    marker? (exchange :: log) = some exchange.process := by
  simp [marker?, marks]

theorem DownloadedBy.mono {url : String} {contents : Bytes} {later : List Exchange}
    (downloaded : DownloadedBy log pid url contents) (longer : log ⊆ later) :
    DownloadedBy later pid url contents := by
  obtain ⟨transfer, member, sent⟩ := downloaded
  exact ⟨transfer, longer member, sent⟩

theorem DownloadedBy.ne_nil {url : String} {contents : Bytes} (downloaded : DownloadedBy log pid url contents) :
    contents ≠ [] := by
  obtain ⟨transfer, member, sent⟩ := downloaded
  obtain ⟨_, _, _, _, _, present⟩ := Transfer.document_eq_ok.mp sent
  exact present

theorem EngineOrigin.kept {later : List Exchange} (origin : EngineOrigin directory crew initial files log)
    (longer : log ⊆ later) (last : placer? later = placer? log)
    (same : after.inside directory artifactName = files.inside directory artifactName) :
    EngineOrigin directory crew initial after later := by
  cases origin with
  | untouched none unchanged => exact .untouched (last.trans none) (same.trans unchanged)
  | placed pid descriptor contents placer installs downloaded found =>
      exact .placed pid descriptor contents (last.trans placer) installs (downloaded.mono longer)
        (same.trans found)

theorem MarkerOrigin.kept {later : List Exchange} (origin : MarkerOrigin directory crew initial files log)
    (longer : log ⊆ later) (last : marker? later = marker? log)
    (same : after.inside directory markerName = files.inside directory markerName) :
    MarkerOrigin directory crew initial after later := by
  cases origin with
  | untouched none unchanged => exact .untouched (last.trans none) (same.trans unchanged)
  | marked pid descriptor marker installs earlier found =>
      obtain ⟨exchange, member, own⟩ := earlier
      exact .marked pid descriptor (last.trans marker) installs ⟨exchange, longer member, own⟩
        (same.trans found)

/-- After an exchange, the engine is what it was or the document that was just placed. -/
theorem Deed.engine (deed : Deed directory exchange.process descriptor files log exchange after)
    (installs : crew exchange.process = some descriptor)
    (origin : EngineOrigin directory crew initial files log) :
    EngineOrigin directory crew initial after (exchange :: log) := by
  have longer := List.subset_cons_self exchange log
  cases deed with
  | hidden name entry own changed places marks =>
      apply origin.kept longer (placer?_cons_of_not places)
      apply inside_of_changed changed
      rcases own with rfl | rfl
      · exact (stagingName_ne_artifactName _).symm
      · exact (temporaryName_ne_artifactName _).symm
  | placed contents downloaded changed places marks =>
      refine .placed _ descriptor contents (placer?_cons places) installs (downloaded.mono longer) ?_
      rw [changed, Function.update_self]
  | marked earlier changed places marks =>
      apply origin.kept longer (placer?_cons_of_not places)
      rw [changed, Function.update_of_ne artifactName_ne_markerName,
        Function.update_of_ne (temporaryName_ne_artifactName _).symm]

/-- After an exchange, the marker is what it was or the version of the process that has just placed it. -/
theorem Deed.marker (deed : Deed directory exchange.process descriptor files log exchange after)
    (installs : crew exchange.process = some descriptor)
    (origin : MarkerOrigin directory crew initial files log) :
    MarkerOrigin directory crew initial after (exchange :: log) := by
  have longer := List.subset_cons_self exchange log
  cases deed with
  | hidden name entry own changed places marks =>
      apply origin.kept longer (marker?_cons_of_not marks)
      apply inside_of_changed changed
      rcases own with rfl | rfl
      · exact (stagingName_ne_markerName _).symm
      · exact (temporaryName_ne_markerName _).symm
  | placed contents downloaded changed places marks =>
      apply origin.kept longer (marker?_cons_of_not marks)
      rw [changed, Function.update_of_ne artifactName_ne_markerName.symm,
        Function.update_of_ne (stagingName_ne_markerName _).symm]
  | marked earlier changed places marks =>
      obtain ⟨before, member, own⟩ := earlier
      refine .marked _ descriptor (marker?_cons marks) installs ⟨before, longer member, own⟩ ?_
      rw [changed, Function.update_self]

end

def sharing (files : MemoryFiles) (crew : Nat → Option Descriptor) :
    Pool (Except LauncherError Outcome) where
  files
  processes pid := (crew pid).map fun descriptor => ExceptT.run (install pid descriptor)

section

variable {Value : Type} {directory : Path} {crew : Nat → Option Descriptor} {initial : MemoryFiles}
  {pool after : Pool Value}

theorem sound_sharing (crew : Nat → Option Descriptor) (initial : MemoryFiles)
    (within : ∀ pid descriptor, crew pid = some descriptor →
      descriptor.cacheDir.components = directory.components) :
    Sound directory crew initial (sharing initial crew) where
  processes := by
    intro pid procedure running
    obtain ⟨descriptor, installs, rfl⟩ := Option.map_eq_some_iff.mp running
    refine ⟨descriptor, {}, installs, ?_, ⟨nofun, nofun, nofun, nofun, nofun⟩⟩
    have kept : Attempt.Keeps (installerProtocol directory pid descriptor) (fun _ _ => True) (fun _ _ => True) {}
        (install pid descriptor) := install_keeps (within pid descriptor installs)
    exact Procedure.Keeps.mono kept fun _ _ _ => trivial
  engine := .untouched rfl rfl
  marker := .untouched rfl rfl

/-- While a request of a process is only partly done, the others know what they knew. -/
theorem Sound.others_beside_partly {pid : Nat} {descriptor : Descriptor} {progress : Progress} {request : Request}
    {left : MemoryFiles} (sound : Sound directory crew initial pool)
    (permitted : Permitted directory pid descriptor progress request)
    (partly : Partly pool.files request left) :
    (∀ other procedure, other ≠ pid → pool.processes other = some procedure →
      ∃ descriptor progress, crew other = some descriptor ∧
        procedure.Keeps (installerProtocol directory other descriptor) (fun _ _ => True) progress ∧
        Knows directory other descriptor left pool.log progress) ∧
      EngineOrigin directory crew initial left pool.log ∧ MarkerOrigin directory crew initial left pool.log := by
  have elsewhere {name : Bytes} (staging : name ≠ stagingName pid) (temporary : name ≠ temporaryName pid) :
      left.inside directory name = pool.files.inside directory name :=
    elsewhere_of_partly permitted partly staging temporary
  refine ⟨?_, ?_, ?_⟩
  · intro other procedure apart running
    obtain ⟨wanted, known, installs, keeps, knows⟩ := sound.processes other procedure running
    exact ⟨wanted, known, installs, keeps, knows.beside apart (List.Subset.refl _)
      fun name staging temporary _ _ => elsewhere staging temporary⟩
  · exact sound.engine.kept (List.Subset.refl _) rfl
      (elsewhere (stagingName_ne_artifactName pid).symm (temporaryName_ne_artifactName pid).symm)
  · exact sound.marker.kept (List.Subset.refl _) rfl
      (elsewhere (stagingName_ne_markerName pid).symm (temporaryName_ne_markerName pid).symm)

/-- The process that makes a request is permitted to, and will keep to the protocol. -/
theorem Sound.asking {pid : Nat} {request : Request} {next : request.Answer → Procedure Value}
    (sound : Sound directory crew initial pool) (waiting : pool.processes pid = some (.ask request next)) :
    ∃ descriptor progress, crew pid = some descriptor ∧
      Permitted directory pid descriptor progress request ∧
      (∀ answer, (next answer).Keeps (installerProtocol directory pid descriptor) (fun _ _ => True)
        (progress.learn request answer)) ∧
      Knows directory pid descriptor pool.files pool.log progress := by
  obtain ⟨descriptor, progress, installs, ⟨permitted, keeps⟩, knows⟩ := sound.processes pid _ waiting
  exact ⟨descriptor, progress, installs, permitted, keeps, knows⟩

/-- Every step of every process keeps it so. -/
theorem Sound.step (sound : Sound directory crew initial pool) (step : pool.Step after) :
    Sound directory crew initial after := by
  cases step with
  | answered pid request next answer files waiting responds =>
      obtain ⟨descriptor, progress, installs, permitted, keeps, knows⟩ := sound.asking waiting
      have deed := deed_of_permitted knows permitted responds
      refine ⟨?_, deed.engine installs sound.engine, deed.marker installs sound.marker⟩
      intro other procedure running
      change Function.update pool.processes pid _ other = _ at running
      by_cases same : other = pid
      · subst same
        rw [Function.update_self] at running
        cases running
        exact ⟨descriptor, _, installs, keeps answer, knows.learn permitted responds⟩
      · rw [Function.update_of_ne same] at running
        obtain ⟨wanted, known, hired, kept, sure⟩ := sound.processes other procedure running
        exact ⟨wanted, known, hired, kept, sure.beside same (List.subset_cons_self _ _) deed.elsewhere⟩
  | underway pid path contents next left waiting partly =>
      obtain ⟨descriptor, progress, installs, permitted, keeps, knows⟩ := sound.asking waiting
      obtain ⟨others, engine, marker⟩ := sound.others_beside_partly permitted partly
      refine ⟨?_, engine, marker⟩
      intro other procedure running
      change pool.processes other = _ at running
      -- The writing process still waits, and it knows nothing of the file that it is writing.
      by_cases same : other = pid
      · subst same
        rw [waiting] at running
        cases running
        obtain ⟨entry, changed⟩ := inside_of_partly permitted partly
        refine ⟨descriptor, progress, installs, ⟨permitted, keeps⟩, ?_⟩
        refine knows.kept (inside_of_changed changed (stagingName_ne_temporaryName _ _)) ?_ (List.Subset.refl _)
        intro prepared
        rw [permitted.2.2.2] at prepared
        cases prepared
      · exact others other procedure same running
  | stopped pid request next left waiting partly =>
      obtain ⟨descriptor, progress, installs, permitted, keeps, knows⟩ := sound.asking waiting
      obtain ⟨others, engine, marker⟩ := sound.others_beside_partly permitted partly
      refine ⟨?_, engine, marker⟩
      intro other procedure running
      change Function.update pool.processes pid none other = _ at running
      have apart : other ≠ pid := by
        rintro rfl
        rw [Function.update_self] at running
        cases running
      rw [Function.update_of_ne apart] at running
      exact others other procedure apart running

/-- So it is after any number of steps. -/
theorem Sound.reaches (sound : Sound directory crew initial pool) (reached : pool.Reaches after) :
    Sound directory crew initial after := by
  induction reached with
  | refl => exact sound
  | tail _ step ih => exact ih.step step

end
end Cache
end JarLauncher
