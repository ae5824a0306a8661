import JarLauncher.Proofs.Cache.Names
import JarLauncher.Proofs.Download.Fetch

/-!
What is seen of a cache, and what an installation leaves behind on a computer whose file operations succeed.
-/

namespace JarLauncher.Cache

open Download Files Machine

/-- The version that the marker in some files tells. -/
def markerSeen (files : MemoryFiles) (descriptor : Descriptor) : Option String :=
  if files.isFile descriptor.markerPath then
    (files.readText descriptor.markerPath).toOption.map Text.trim
  else none

def archiveSeen (files : MemoryFiles) (descriptor : Descriptor) : Bool :=
  ((files.read descriptor.artifactPath).toOption.map startsAsArchive).getD false

def seen (files : MemoryFiles) (descriptor : Descriptor) : State where
  artifactPresent := files.isFile descriptor.artifactPath
  markerPresent := files.isFile descriptor.markerPath
  markerVersion := markerSeen files descriptor
  artifactStructurallyValid :=
    if files.isFile descriptor.artifactPath ∧ markerSeen files descriptor = some descriptor.expectedVersion
    then archiveSeen files descriptor else false

def Usable (files : MemoryFiles) (descriptor : Descriptor) : Prop :=
  (seen files descriptor).isUsable descriptor.expectedVersion = true

/-- Whether a machine shows these files to whoever looks, and stays as it is meanwhile. -/
structure Shows {World : Type} (answering : Answering World) (world : World) (files : MemoryFiles) : Prop where
  isFile : ∀ path, answering (.isFile path) world = (files.isFile path, world)
  readText : ∀ path, answering (.readText path) world = (files.readText path, world)
  openFile : ∀ path, answering (.openFile path) world = (files.read path, world)

variable {serve : String → Transfer} {descriptor : Descriptor} {computer : Computer} {files : MemoryFiles}

namespace Shows

variable {World : Type} {answering : Answering World} {world : World}

theorem run_markerVersion (shows : Shows answering world files) :
    (markerVersion descriptor).run answering world = (markerSeen files descriptor, world) := by
  unfold markerVersion markerSeen
  rw [Procedure.run_bind, Procedure.run_request, shows.isFile]
  cases files.isFile descriptor.markerPath with
  | false => rfl
  | true =>
      change Procedure.run _ (Procedure.request _ >>= _) world = _
      rw [Procedure.run_bind, Procedure.run_request, shows.readText]
      cases files.readText descriptor.markerPath <;> rfl

theorem run_hasArchiveSignature (shows : Shows answering world files) :
    (hasArchiveSignature descriptor).run answering world = (archiveSeen files descriptor, world) := by
  unfold hasArchiveSignature archiveSeen
  rw [Procedure.run_bind, Procedure.run_request, shows.openFile]
  cases files.read descriptor.artifactPath <;> rfl

/-- Looking at a cache changes nothing. -/
theorem run_observe (shows : Shows answering world files) :
    (observe descriptor).run answering world = (seen files descriptor, world) := by
  unfold observe
  rw [Procedure.run_bind, Procedure.run_request, shows.isFile]
  dsimp only
  rw [Procedure.run_bind, Procedure.run_request, shows.isFile]
  dsimp only
  rw [Procedure.run_bind, shows.run_markerVersion]
  by_cases claimed : files.isFile descriptor.artifactPath = true ∧
      markerSeen files descriptor = some descriptor.expectedVersion
  · simp [seen, claimed, shows.run_hasArchiveSignature]
  · simp [seen, claimed]

theorem run_isUsable (shows : Shows answering world files) :
    (isUsable descriptor).run answering world =
      ((seen files descriptor).isUsable descriptor.expectedVersion, world) := by
  unfold isUsable
  rw [Procedure.run_bind, shows.run_observe]
  rfl

theorem run_plan (shows : Shows answering world files) :
    (plan descriptor).run answering world =
      (Plan.ofState (seen files descriptor) descriptor.expectedVersion, world) := by
  unfold plan
  rw [Procedure.run_bind, shows.run_observe]
  rfl

end Shows

theorem shows_answer (serve : String → Transfer) (computer : Computer) :
    Shows (Computer.answer serve) computer computer.files where
  isFile _ := rfl
  readText _ := rfl
  openFile _ := rfl

theorem run_markerVersion :
    (markerVersion descriptor).run (Computer.answer serve) computer =
      (markerSeen computer.files descriptor, computer) :=
  (shows_answer serve computer).run_markerVersion

theorem run_observe :
    (observe descriptor).run (Computer.answer serve) computer = (seen computer.files descriptor, computer) :=
  (shows_answer serve computer).run_observe

theorem run_isUsable :
    (isUsable descriptor).run (Computer.answer serve) computer =
      ((seen computer.files descriptor).isUsable descriptor.expectedVersion, computer) :=
  (shows_answer serve computer).run_isUsable

theorem run_plan :
    (plan descriptor).run (Computer.answer serve) computer =
      (Plan.ofState (seen computer.files descriptor) descriptor.expectedVersion, computer) :=
  (shows_answer serve computer).run_plan

theorem markerSeen_eq_some {version : String} :
    markerSeen files descriptor = some version ↔
      ∃ text, files.readText descriptor.markerPath = .ok text ∧ Text.trim text = version := by
  unfold markerSeen
  constructor
  · intro told
    split at told
    · cases read : files.readText descriptor.markerPath with
      | error report =>
          rw [read] at told
          cases told
      | ok text =>
          rw [read] at told
          exact ⟨text, rfl, Option.some.inj told⟩
    · cases told
  · rintro ⟨text, read, told⟩
    obtain ⟨contents, found, _⟩ := MemoryFiles.readText_eq_ok.mp read
    rw [if_pos (MemoryFiles.isFile_of_read found), read, ← told]
    rfl

theorem archiveSeen_eq_true :
    archiveSeen files descriptor = true ↔
      ∃ contents, files.read descriptor.artifactPath = .ok contents ∧ startsAsArchive contents = true := by
  unfold archiveSeen
  cases files.read descriptor.artifactPath with
  | error report => exact ⟨nofun, nofun⟩
  | ok contents => simp [Except.toOption]

/-- A cache is usable when its engine can be read and is an archive, and its marker can be read and tells
the wanted version. -/
theorem usable_iff :
    Usable files descriptor ↔
      (∃ contents, files.read descriptor.artifactPath = .ok contents ∧ startsAsArchive contents = true) ∧
        ∃ text, files.readText descriptor.markerPath = .ok text ∧
          Text.trim text = descriptor.expectedVersion := by
  rw [← archiveSeen_eq_true, ← markerSeen_eq_some]
  rw [Usable, State.isUsable, State.claims, Bool.and_eq_true, Bool.and_eq_true, decide_eq_true_iff]
  simp only [seen]
  constructor
  · rintro ⟨⟨present, told⟩, valid⟩
    rw [if_pos ⟨present, told⟩] at valid
    exact ⟨valid, told⟩
  · rintro ⟨archive, told⟩
    obtain ⟨contents, read, _⟩ := archiveSeen_eq_true.mp archive
    have present := MemoryFiles.isFile_of_read read
    exact ⟨⟨present, told⟩, by rw [if_pos ⟨present, told⟩]; exact archive⟩

/-- Where everything can be read, whether a cache is usable depends on its two files alone. -/
theorem usable_iff_inside
    (readable : ∀ name, files.unreadable (descriptor.cacheDir.components ++ [.named name]) = false) :
    Usable files descriptor ↔
      (∃ contents, files.inside descriptor.cacheDir artifactName = some (.file contents) ∧
        startsAsArchive contents = true) ∧
      ∃ contents text, files.inside descriptor.cacheDir markerName = some (.file contents) ∧
        Utf8.decode contents = .ok text ∧ Text.trim text = descriptor.expectedVersion := by
  have engineReadable : files.unreadable descriptor.artifactPath.components = false := by
    rw [isEntry_artifactPath descriptor]
    exact readable artifactName
  have markerReadable : files.unreadable descriptor.markerPath.components = false := by
    rw [isEntry_markerPath descriptor]
    exact readable markerName
  rw [usable_iff]
  simp only [MemoryFiles.readText_eq_ok, MemoryFiles.read_eq_ok (isEntry_artifactPath descriptor),
    MemoryFiles.read_eq_ok (isEntry_markerPath descriptor), engineReadable, markerReadable, true_and]
  constructor
  · rintro ⟨engine, text, ⟨contents, found, decoded⟩, told⟩
    exact ⟨engine, contents, text, found, decoded, told⟩
  · rintro ⟨engine, contents, text, found, decoded, told⟩
    exact ⟨engine, text, ⟨contents, found, decoded⟩, told⟩

/-- What is seen of a cache depends on its two files, and on who may read them. -/
theorem seen_congr {later : MemoryFiles}
    (artifact : later.find? descriptor.artifactPath = files.find? descriptor.artifactPath)
    (marker : later.find? descriptor.markerPath = files.find? descriptor.markerPath)
    (readable : later.unreadable = files.unreadable) : seen later descriptor = seen files descriptor := by
  have present := MemoryFiles.isFile_congr artifact
  have marked := MemoryFiles.isFile_congr marker
  have opened := MemoryFiles.read_congr artifact readable
  have told : later.readText descriptor.markerPath = files.readText descriptor.markerPath := by
    rw [MemoryFiles.readText, MemoryFiles.readText, MemoryFiles.read_congr marker readable]
  have version : markerSeen later descriptor = markerSeen files descriptor := by
    rw [markerSeen, markerSeen, marked, told]
  have archive : archiveSeen later descriptor = archiveSeen files descriptor := by
    rw [archiveSeen, archiveSeen, opened]
  rw [seen, seen, present, marked, version, archive]

/-- An installation looks at the cache, and then does what its plan says. -/
theorem outcome_install {pid : Nat} {result : Except LauncherError Outcome} {after : Computer}
    (applied : Attempt.outcome (Computer.answer serve)
      (apply pid descriptor (Plan.ofState (seen computer.files descriptor) descriptor.expectedVersion))
      computer = (result, after)) :
    Attempt.outcome (Computer.answer serve) (install pid descriptor) computer = (result, after) := by
  have planned : Attempt.outcome (Computer.answer serve) (ExceptT.lift (plan descriptor)) computer =
      (.ok (Plan.ofState (seen computer.files descriptor) descriptor.expectedVersion), computer) := by
    rw [Attempt.outcome_lift, run_plan]
  unfold install
  rw [Attempt.outcome_bind_of_ok planned, applied]

theorem outcome_install_of_usable (pid : Nat) (usable : Usable computer.files descriptor) :
    Attempt.outcome (Computer.answer serve) (install pid descriptor) computer =
      (.ok (.alreadyCached descriptor.expectedVersion), computer) := by
  have planned : Plan.ofState (seen computer.files descriptor) descriptor.expectedVersion = .upToDate :=
    if_pos usable
  apply outcome_install
  rw [planned]
  rfl

/-- A cache that is not usable has to be refreshed, for the reason that the plan gives. -/
theorem exists_refresh (unusable : ¬Usable files descriptor) :
    ∃ reason, Plan.ofState (seen files descriptor) descriptor.expectedVersion = .refresh reason := by
  unfold Usable at unusable
  rw [Plan.ofState, if_neg unusable]
  split
  · exact ⟨_, rfl⟩
  split
  · split
    · exact ⟨_, rfl⟩
    · exact ⟨_, rfl⟩
  · exact ⟨_, rfl⟩

/-- The request with which a marker is prepared. -/
def writingMarker (descriptor : Descriptor) (pid : Nat) : Request :=
  .writeFile (temporaryMarkerPath descriptor pid) (Utf8.encode descriptor.expectedVersion)

/-- The request with which a marker that is prepared takes its place. -/
def movingMarker (descriptor : Descriptor) (pid : Nat) : Request :=
  .renameFile (temporaryMarkerPath descriptor pid) descriptor.markerPath

section

variable {World : Type} {answering : Answering World} {world prepared moved : World} {pid : Nat} {report : Report}

theorem outcome_writeMarker_of_unwritten
    (writing : answering (writingMarker descriptor pid) world = (.error report, prepared)) :
    Attempt.outcome answering (writeMarker pid descriptor) world =
      (.error (.other (report.within
        ("writing version marker " ++ (temporaryMarkerPath descriptor pid).quoted))), prepared) := by
  unfold writingMarker at writing
  unfold writeMarker
  rw [Attempt.outcome_mk, Procedure.run_bind, Procedure.run_request, writing]
  rfl

theorem outcome_writeMarker_of_written {moving : Except Report Unit}
    (writing : answering (writingMarker descriptor pid) world = (.ok (), prepared))
    (installing : answering (movingMarker descriptor pid) prepared = (moving, moved)) :
    Attempt.outcome answering (writeMarker pid descriptor) world =
      match moving with
      | .ok () => (.ok (), moved)
      | .error report =>
        (.error (.other (report.within ("installing version marker " ++ descriptor.markerPath.quoted))),
          (answering (.removeFile (temporaryMarkerPath descriptor pid)) moved).2) := by
  unfold writingMarker at writing
  unfold movingMarker at installing
  unfold writeMarker
  rw [Attempt.outcome_mk, Procedure.run_bind, Procedure.run_request, writing]
  change Procedure.run _ (Procedure.request _ >>= _) prepared = _
  rw [Procedure.run_bind, Procedure.run_request, installing]
  cases moving <;> rfl

end

variable (pid : Nat)

variable (serve) in
/-- The hidden file of the marker is written, unless a directory has its name. -/
theorem answer_writingMarker
    (free : computer.files.inside descriptor.cacheDir (temporaryName pid) ≠ some .directory) :
    ∃ prepared, Computer.answer serve (writingMarker descriptor pid) computer = (.ok (), prepared) ∧
      computer.Became prepared descriptor.cacheDir
        (Function.update (computer.files.inside descriptor.cacheDir) (temporaryName pid)
          (some (.file (Utf8.encode descriptor.expectedVersion)))) [] := by
  obtain ⟨prepared, wrote, became⟩ := Computer.writeFile_became (isEntry_temporaryMarkerPath descriptor pid)
    (Utf8.encode descriptor.expectedVersion) free
  exact ⟨prepared, Computer.reported_of_changed wrote, became⟩

variable (serve) in
/-- A marker that can take its place does so, and nothing is left beside it. -/
theorem outcome_writeMarker
    (free : computer.files.inside descriptor.cacheDir (temporaryName pid) ≠ some .directory)
    (room : computer.files.inside descriptor.cacheDir markerName ≠ some .directory) :
    ∃ after, Attempt.outcome (Computer.answer serve) (writeMarker pid descriptor) computer = (.ok (), after) ∧
      computer.Became after descriptor.cacheDir
        (Function.update
          (Function.update (computer.files.inside descriptor.cacheDir) (temporaryName pid) none)
          markerName (some (.file (Utf8.encode descriptor.expectedVersion)))) [] := by
  have temporaryLeads := isEntry_temporaryMarkerPath descriptor pid
  obtain ⟨prepared, writing, became⟩ := answer_writingMarker serve pid free
  have found : prepared.files.inside descriptor.cacheDir (temporaryName pid) =
      some (.file (Utf8.encode descriptor.expectedVersion)) := by
    rw [became.inside, Function.update_self]
  have clear : prepared.files.inside descriptor.cacheDir markerName ≠ some .directory := by
    rw [became.inside, Function.update_of_ne (temporaryName_ne_markerName pid).symm]
    exact room
  obtain ⟨after, moved, placed⟩ := Computer.moved_became temporaryLeads (isEntry_markerPath descriptor) found clear
  have total := became.trans placed
  rw [became.inside, Function.update_idem, List.append_nil] at total
  have installing : Computer.answer serve (movingMarker descriptor pid) prepared = (.ok (), after) :=
    Computer.reported_of_changed moved
  exact ⟨after, outcome_writeMarker_of_written writing installing, total⟩

variable (serve) in
/-- Where a directory has the place of the marker, it keeps it, and nothing is left beside it. -/
theorem outcome_writeMarker_of_blocked
    (free : computer.files.inside descriptor.cacheDir (temporaryName pid) ≠ some .directory)
    (blocked : computer.files.inside descriptor.cacheDir markerName = some .directory) :
    ∃ report after, Attempt.outcome (Computer.answer serve) (writeMarker pid descriptor) computer =
        (.error (.other report), after) ∧
      computer.Became after descriptor.cacheDir
        (Function.update (computer.files.inside descriptor.cacheDir) (temporaryName pid) none) [] := by
  have temporaryLeads := isEntry_temporaryMarkerPath descriptor pid
  obtain ⟨prepared, writing, became⟩ := answer_writingMarker serve pid free
  have found : prepared.files.inside descriptor.cacheDir (temporaryName pid) =
      some (.file (Utf8.encode descriptor.expectedVersion)) := by
    rw [became.inside, Function.update_self]
  have obstacle : prepared.files.obstacle? (movingMarker descriptor pid) = some Fault.isDirectory := by
    rw [movingMarker, MemoryFiles.obstacle?, Computer.isFile_of_found temporaryLeads found,
      MemoryFiles.find?_of_isEntry (isEntry_markerPath descriptor), became.inside,
      Function.update_of_ne (temporaryName_ne_markerName pid).symm, if_pos blocked]
    rfl
  have installing : Computer.answer serve (movingMarker descriptor pid) prepared = (.error _, prepared) :=
    Computer.reported_of_blocked obstacle
  obtain ⟨after, removed, cleaned⟩ := Computer.removed_became temporaryLeads found
  have removing : Computer.answer serve (.removeFile (temporaryMarkerPath descriptor pid)) prepared = (.ok (), after) :=
    Computer.reported_of_changed removed
  have total := became.trans cleaned
  rw [became.inside, Function.update_idem, List.append_nil] at total
  have failed := outcome_writeMarker_of_written writing installing
  rw [removing] at failed
  exact ⟨_, after, failed, total⟩

/-- Without a document, an installation tells the fault and leaves the cache as it was. -/
theorem outcome_install_of_fault {error : LauncherError} (unusable : ¬Usable computer.files descriptor)
    (free : computer.files.inside descriptor.cacheDir (stagingName pid) ≠ some .directory)
    (fault : (serve descriptor.remoteLocation).document descriptor.remoteLocation = .error error) :
    ∃ after, Attempt.outcome (Computer.answer serve) (install pid descriptor) computer = (.error error, after) ∧
      computer.Became after descriptor.cacheDir
        (Function.update (computer.files.inside descriptor.cacheDir) (stagingName pid) none)
        [descriptor.remoteLocation] := by
  obtain ⟨reason, planned⟩ := exists_refresh unusable
  obtain ⟨place, beside⟩ := beside_artifactPath descriptor pid
  obtain ⟨after, fetched, became⟩ := outcome_fetch_of_error serve beside free fault
  refine ⟨after, outcome_install ?_, became⟩
  rw [planned]
  exact Attempt.outcome_bind_of_error fetched _

/-- A document that was sent becomes the engine, and nothing changes in the cache but it and the hidden file. -/
theorem outcome_fetch_of_document {contents : Bytes}
    (staging : computer.files.inside descriptor.cacheDir (stagingName pid) ≠ some .directory)
    (artifact : computer.files.inside descriptor.cacheDir artifactName ≠ some .directory)
    (sent : (serve descriptor.remoteLocation).document descriptor.remoteLocation = .ok contents) :
    ∃ fetched,
      Attempt.outcome (Computer.answer serve)
        (fetch pid descriptor.remoteLocation descriptor.artifactPath) computer =
          (.ok descriptor.artifactPath, fetched) ∧
      computer.Became fetched descriptor.cacheDir
        (Function.update (Function.update (computer.files.inside descriptor.cacheDir) (stagingName pid) none)
          artifactName (some (.file contents))) [descriptor.remoteLocation] ∧
      ∀ other, other ≠ stagingName pid → other ≠ artifactName →
        fetched.files.inside descriptor.cacheDir other = computer.files.inside descriptor.cacheDir other := by
  obtain ⟨place, beside⟩ := beside_artifactPath descriptor pid
  obtain ⟨fetched, downloaded, became⟩ := outcome_fetch_of_ok serve beside staging artifact sent
  refine ⟨fetched, downloaded, became, ?_⟩
  intro other apart aside
  rw [became.inside, Function.update_of_ne aside, Function.update_of_ne apart]

/-- A document that was sent becomes the engine, and then the marker tells its version. -/
theorem outcome_install_of_document {contents : Bytes} (unusable : ¬Usable computer.files descriptor)
    (staging : computer.files.inside descriptor.cacheDir (stagingName pid) ≠ some .directory)
    (temporary : computer.files.inside descriptor.cacheDir (temporaryName pid) ≠ some .directory)
    (artifact : computer.files.inside descriptor.cacheDir artifactName ≠ some .directory)
    (marker : computer.files.inside descriptor.cacheDir markerName ≠ some .directory)
    (sent : (serve descriptor.remoteLocation).document descriptor.remoteLocation = .ok contents) :
    ∃ reason after,
      Plan.ofState (seen computer.files descriptor) descriptor.expectedVersion = .refresh reason ∧
      Attempt.outcome (Computer.answer serve) (install pid descriptor) computer =
        (.ok (.installed descriptor.expectedVersion reason), after) ∧
      computer.Became after descriptor.cacheDir
        (Function.update
          (Function.update
            (Function.update
              (Function.update (computer.files.inside descriptor.cacheDir) (stagingName pid) none)
              artifactName (some (.file contents)))
            (temporaryName pid) none)
          markerName (some (.file (Utf8.encode descriptor.expectedVersion))))
        [descriptor.remoteLocation] := by
  obtain ⟨reason, planned⟩ := exists_refresh unusable
  obtain ⟨fetched, downloaded, became, kept⟩ := outcome_fetch_of_document pid staging artifact sent
  have free : fetched.files.inside descriptor.cacheDir (temporaryName pid) ≠ some .directory := by
    rw [kept _ (stagingName_ne_temporaryName pid pid).symm (temporaryName_ne_artifactName pid)]
    exact temporary
  have room : fetched.files.inside descriptor.cacheDir markerName ≠ some .directory := by
    rw [kept _ (stagingName_ne_markerName pid).symm artifactName_ne_markerName.symm]
    exact marker
  obtain ⟨after, marked, placed⟩ := outcome_writeMarker serve pid free room
  have total := became.trans placed
  rw [became.inside, List.append_nil] at total
  refine ⟨reason, after, planned, outcome_install ?_, total⟩
  rw [planned]
  change Attempt.outcome _ (fetch _ _ _ >>= _) computer = _
  rw [Attempt.outcome_bind_of_ok downloaded, Attempt.outcome_bind_of_ok marked]
  rfl

/-- What a cache directory holds that has been filled, or has not been filled yet. -/
def holding (slot : Option String) (payload : Option Bytes) (name : Bytes) : Option Entry :=
  if name = artifactName then payload.map .file
  else if name = markerName then slot.map fun version => .file (Utf8.encode version)
  else none

section

variable {slot : Option String} {payload : Option Bytes} {name : Bytes}

theorem holding_none : holding none none = fun _ => none := by
  funext name
  unfold holding
  split
  · rfl
  · split <;> rfl

@[simp] theorem holding_artifactName : holding slot payload artifactName = payload.map .file :=
  if_pos rfl

@[simp] theorem holding_markerName :
    holding slot payload markerName = slot.map fun version => .file (Utf8.encode version) := by
  rw [holding, if_neg artifactName_ne_markerName.symm, if_pos rfl]

theorem holding_of_ne (artifact : name ≠ artifactName) (marker : name ≠ markerName) :
    holding slot payload name = none := by
  rw [holding, if_neg artifact, if_neg marker]

theorem holding_ne_directory : holding slot payload name ≠ some .directory := by
  unfold holding
  split
  · cases payload <;> simp
  split
  · cases slot <;> simp
  · simp

/-- A hidden file that is taken away was not there. -/
theorem update_holding_none (artifact : name ≠ artifactName) (marker : name ≠ markerName) :
    Function.update (holding slot payload) name none = holding slot payload :=
  Function.update_eq_self_iff.mpr (holding_of_ne artifact marker).symm

theorem update_holding_artifact (contents : Bytes) :
    Function.update (holding slot payload) artifactName (some (.file contents)) =
      holding slot (some contents) := by
  funext name
  by_cases same : name = artifactName
  · rw [same, Function.update_self, holding_artifactName]
    rfl
  · rw [Function.update_of_ne same, holding, holding, if_neg same, if_neg same]

theorem update_holding_marker (version : String) :
    Function.update (holding slot payload) markerName (some (.file (Utf8.encode version))) =
      holding (some version) payload := by
  funext name
  by_cases same : name = markerName
  · rw [same, Function.update_self, holding_markerName]
    rfl
  · rw [Function.update_of_ne same, holding, holding, if_neg same, if_neg same]

/-- A filled cache is usable for the version that its marker tells, if its engine is an archive. -/
theorem usable_iff_holding (held : files.inside descriptor.cacheDir = holding slot payload)
    (readable : ∀ name, files.unreadable (descriptor.cacheDir.components ++ [.named name]) = false) :
    Usable files descriptor ↔
      (∃ contents, payload = some contents ∧ startsAsArchive contents = true) ∧
        ∃ version, slot = some version ∧ Text.trim version = descriptor.expectedVersion := by
  rw [usable_iff_inside readable, held, holding_artifactName, holding_markerName]
  cases payload with
  | none => simp
  | some contents =>
      cases slot with
      | none => simp
      | some version => simp [Utf8.decode_encode]

/-- An installation that succeeds in a download fills the cache directory, whatever was there before. -/
theorem update_holding_installed (version : String) (contents : Bytes) :
    Function.update
      (Function.update
        (Function.update (Function.update (holding slot payload) (stagingName pid) none)
          artifactName (some (.file contents)))
        (temporaryName pid) none)
      markerName (some (.file (Utf8.encode version))) = holding (some version) (some contents) := by
  rw [update_holding_none (stagingName_ne_artifactName _) (stagingName_ne_markerName _),
    update_holding_artifact,
    update_holding_none (temporaryName_ne_artifactName _) (temporaryName_ne_markerName _),
    update_holding_marker]

theorem not_usable_empty (descriptor : Descriptor) : ¬Usable {} descriptor := by
  have nothing : ({} : MemoryFiles).inside descriptor.cacheDir = holding none none := holding_none.symm
  rw [usable_iff_holding nothing fun _ => rfl]
  rintro ⟨⟨contents, held, _⟩, _⟩
  cases held

/-- Where there is nothing yet, a document that was sent fills the cache. -/
theorem outcome_install_first (pid : Nat) {contents : Bytes}
    (sent : (serve descriptor.remoteLocation).document descriptor.remoteLocation = .ok contents) :
    ∃ reason after, Attempt.outcome (Computer.answer serve) (install pid descriptor) { files := {} } =
        (.ok (.installed descriptor.expectedVersion reason), after) ∧
      after.files.unreadable = (fun _ => false) ∧
      after.files.inside descriptor.cacheDir = holding (some descriptor.expectedVersion) (some contents) := by
  let start : Computer := { files := {} }
  have unusable : ¬Usable start.files descriptor := not_usable_empty descriptor
  have nothing : start.files.inside descriptor.cacheDir = holding none none := holding_none.symm
  obtain ⟨reason, after, _, installed, became⟩ :=
    outcome_install_of_document pid unusable nofun nofun nofun nofun sent
  refine ⟨reason, after, installed, became.unreadable, ?_⟩
  have held := became.inside
  rw [nothing, update_holding_installed] at held
  exact held

end

end JarLauncher.Cache
