import JarLauncher.Proofs.Cache.CheckerProtocol
import JarLauncher.Proofs.Cache.MixedCache

/-!
Checks of a cache beside installations in it. An installation places its engine before its marker, and a check is
told of the marker before it opens the engine. So a check that is told a version which was not there at first
opens an engine that one of the installations has placed.
-/

namespace JarLauncher.Cache

open Download Files Machine

/-- What a process has to do with a cache. -/
inductive Errand
  | installs (descriptor : Descriptor)
  | checks (descriptor : Descriptor)

/-- What has come of an errand. -/
inductive Finding
  | installed (result : Except LauncherError Outcome)
  | checked (state : State)

namespace Errand

def descriptor : Errand → Descriptor
  | installs descriptor | checks descriptor => descriptor

def procedure (pid : Nat) : Errand → Procedure Finding
  | installs descriptor => do return .installed (← ExceptT.run (install pid descriptor))
  | checks descriptor => do return .checked (← observe descriptor)

end Errand

def attending (files : MemoryFiles) (errands : Nat → Option Errand) : Pool Finding where
  files
  processes pid := (errands pid).map (Errand.procedure pid)

/-- Whether the marker in a directory tells a version. -/
def MarkerTells (files : MemoryFiles) (directory : Path) (version : String) : Prop :=
  ∃ contents text, files.inside directory markerName = some (.file contents) ∧
    Utf8.decode contents = .ok text ∧ Text.trim text = version

/-- Whether a document is the whole of what one of the installations has downloaded. -/
def BroughtIn (errands : Nat → Option Errand) (log : List Exchange) (contents : Bytes) : Prop :=
  ∃ pid wanted, errands pid = some (.installs wanted) ∧ DownloadedBy log pid wanted.remoteLocation contents

/-- A check finds the cache usable only for an archive that it has opened. -/
def Justified (descriptor : Descriptor) : Finding → Sighting → Prop
  | .checked state, sighting => state.isUsable descriptor.expectedVersion = true → sighting.OpenedArchive
  | .installed _, _ => True

section

variable {directory : Path} {pid : Nat} {descriptor : Descriptor}

theorem procedure_keeps_installer {errand : Errand}
    (within : errand.descriptor.cacheDir.components = directory.components) :
    (errand.procedure pid).Keeps (installerProtocol directory pid errand.descriptor) (fun _ _ => True) {} := by
  cases errand with
  | installs descriptor =>
      have kept : Attempt.Keeps (installerProtocol directory pid descriptor) (fun _ _ => True) (fun _ _ => True) {}
          (install pid descriptor) := install_keeps within
      apply Procedure.keeps_bind
      exact Procedure.Keeps.mono kept fun _ _ _ => trivial
  | checks descriptor =>
      apply Procedure.keeps_bind
      exact Procedure.Keeps.mono observe_keeps fun _ _ _ => trivial

theorem checks_keeps_checker :
    ((Errand.checks descriptor).procedure pid).Keeps (checkerProtocol descriptor) (Justified descriptor) {} := by
  apply Procedure.keeps_bind
  apply Procedure.Keeps.mono (observe_keeps_checker rfl)
  intro state after justified
  exact justified

end

/-- What a check remembers is true, and it is all that the check has opened. -/
structure Saw (errands : Nat → Option Errand) (version : String) (pid : Nat) (descriptor : Descriptor)
    (log : List Exchange) (sighting : Sighting) : Prop where
  told : sighting.version = some version → ∃ exchange ∈ log, exchange.places = true
  opened : ∀ path answer, ⟨pid, .openFile path, answer⟩ ∈ log ↔
    path = descriptor.artifactPath ∧ sighting.opened = some answer
  brought : descriptor.expectedVersion = version →
    ∀ contents, sighting.opened = some (.ok contents) → BroughtIn errands log contents

/-- What holds of checks beside installations after any number of steps. -/
structure Attended (directory : Path) (version : String) (errands : Nat → Option Errand) (initial : MemoryFiles)
    (pool : Pool Finding) : Prop where
  sound : Sound directory (fun pid => (errands pid).map Errand.descriptor) initial pool
  checks : ∀ pid descriptor procedure, errands pid = some (.checks descriptor) →
    pool.processes pid = some procedure →
    ∃ sighting, procedure.Keeps (checkerProtocol descriptor) (Justified descriptor) sighting ∧
      Saw errands version pid descriptor pool.log sighting
  placers : ∀ exchange ∈ pool.log, exchange.places = true →
    ∃ wanted, errands exchange.process = some (.installs wanted)

section

variable {directory : Path} {version : String} {errands : Nat → Option Errand} {initial : MemoryFiles}
  {pool after : Pool Finding} {pid : Nat} {descriptor : Descriptor} {log : List Exchange} {sighting : Sighting}
  {request : Request} {answer : request.Answer}

theorem BroughtIn.mono {later : List Exchange} {contents : Bytes} (brought : BroughtIn errands log contents)
    (longer : log ⊆ later) : BroughtIn errands later contents := by
  obtain ⟨pid, wanted, installs, downloaded⟩ := brought
  exact ⟨pid, wanted, installs, downloaded.mono longer⟩

theorem BroughtIn.ne_nil {contents : Bytes} (brought : BroughtIn errands log contents) : contents ≠ [] := by
  obtain ⟨pid, wanted, installs, downloaded⟩ := brought
  exact downloaded.ne_nil

theorem Viewing.places (viewing : Viewing descriptor sighting request) (pid : Nat) :
    Exchange.places ⟨pid, request, answer⟩ = false := by
  cases request with
  | replace source target => exact viewing.elim
  | _ => rfl

/-- A marker that was not there at first was placed after an engine. -/
theorem Sound.exists_places {Value : Type} {crew : Nat → Option Descriptor} {pool : Pool Value}
    (sound : Sound directory crew initial pool) (untold : ¬MarkerTells initial directory version)
    (told : MarkerTells pool.files directory version) : ∃ exchange ∈ pool.log, exchange.places = true := by
  cases sound.marker with
  | untouched last same =>
      obtain ⟨contents, text, found, decoded⟩ := told
      exact absurd ⟨contents, text, same ▸ found, decoded⟩ untold
  | marked pid installing last installs earlier found =>
      obtain ⟨exchange, member, _, places⟩ := earlier
      exact ⟨exchange, member, places⟩

/-- From the first engine that is placed on, the engine is always one that an installation has downloaded. -/
theorem Attended.engine (attended : Attended directory version errands initial pool)
    (placing : ∃ exchange ∈ pool.log, exchange.places = true) :
    ∃ contents, pool.files.inside directory artifactName = some (.file contents) ∧
      BroughtIn errands pool.log contents := by
  cases attended.sound.engine with
  | untouched last same =>
      obtain ⟨exchange, member, places⟩ := placing
      have none := List.find?_eq_none.mp (Option.map_eq_none_iff.mp last) exchange member
      exact absurd places none
  | placed placer descriptor contents last installs downloaded found =>
      obtain ⟨exchange, latest, own⟩ := Option.map_eq_some_iff.mp last
      obtain ⟨wanted, installing⟩ :=
        attended.placers exchange (List.mem_of_find?_eq_some latest) (List.find?_some latest)
      rw [own] at installing
      rw [installing] at installs
      cases installs
      exact ⟨contents, found, placer, wanted, installing, downloaded⟩

/-- What a check remembers is not touched by an exchange in which it opens nothing. -/
theorem Saw.beside {exchange : Exchange} (saw : Saw errands version pid descriptor log sighting)
    (other : ∀ path answer, ⟨pid, .openFile path, answer⟩ ≠ exchange) :
    Saw errands version pid descriptor (exchange :: log) sighting where
  told same := by
    obtain ⟨placing, member, places⟩ := saw.told same
    exact ⟨placing, List.mem_cons_of_mem _ member, places⟩
  opened path answer := by
    rw [← saw.opened, List.mem_cons, or_iff_right (other path answer)]
  brought wanted contents opened := (saw.brought wanted contents opened).mono (List.subset_cons_self _ _)

/-- A check that is told the version which was not there at first opens an engine that was brought in. -/
theorem Saw.learn {files : MemoryFiles} (attended : Attended directory version errands initial pool)
    (untold : ¬MarkerTells initial directory version)
    (here : descriptor.cacheDir.components = directory.components)
    (saw : Saw errands version pid descriptor pool.log sighting) (viewing : Viewing descriptor sighting request)
    (responds : Responds pool.files request answer files) :
    Saw errands version pid descriptor (⟨pid, request, answer⟩ :: pool.log) (sighting.learn request answer) := by
  have longer : pool.log ⊆ ⟨pid, request, answer⟩ :: pool.log := List.subset_cons_self _ _
  cases request with
  | isFile path => exact saw.beside fun _ _ same => by cases same
  | readText path =>
      have known : Saw errands version pid descriptor (⟨pid, .readText path, answer⟩ :: pool.log) sighting :=
        saw.beside fun _ _ same => by cases same
      cases answer with
      | error report => exact known
      | ok text =>
          refine { known with told := ?_ }
          intro same
          obtain ⟨contents, held, decoded⟩ := responds.truthful text rfl
          have leads := (isEntry_markerPath descriptor).congr here
          rw [viewing, MemoryFiles.contents?_eq_some leads] at held
          obtain ⟨exchange, member, places⟩ :=
            attended.sound.exists_places untold ⟨contents, text, held, decoded, Option.some.inj same⟩
          exact ⟨exchange, longer member, places⟩
  | openFile path =>
      obtain ⟨rfl, told, unopened⟩ := viewing
      refine ⟨?_, ?_, ?_⟩
      · intro same
        obtain ⟨exchange, member, places⟩ := saw.told same
        exact ⟨exchange, longer member, places⟩
      · intro other read
        constructor
        · intro member
          rcases List.mem_cons.mp member with same | earlier
          · cases same
            exact ⟨rfl, rfl⟩
          · rw [((saw.opened other read).mp earlier).2] at unopened
            cases unopened
        · rintro ⟨rfl, same⟩
          cases same
          exact List.mem_cons_self
      · intro wanted contents same
        cases same
        have held := responds.truthful contents rfl
        rw [MemoryFiles.contents?_eq_some ((isEntry_artifactPath descriptor).congr here)] at held
        obtain ⟨found, engine, brought⟩ := attended.engine (saw.told (wanted ▸ told))
        rw [held] at engine
        cases engine
        exact brought.mono longer
  | _ => exact viewing.elim

theorem attended_start
    (within : ∀ pid errand, errands pid = some errand →
      errand.descriptor.cacheDir.components = directory.components) :
    Attended directory version errands initial (attending initial errands) where
  sound := {
    processes := by
      intro pid procedure running
      obtain ⟨errand, given, rfl⟩ := Option.map_eq_some_iff.mp running
      refine ⟨errand.descriptor, {}, ?_, procedure_keeps_installer (within pid errand given),
        ⟨nofun, nofun, nofun, nofun, nofun⟩⟩
      simp only [given, Option.map_some]
    engine := .untouched rfl rfl
    marker := .untouched rfl rfl }
  checks := by
    intro pid descriptor procedure given running
    have started : procedure = (Errand.checks descriptor).procedure pid := by
      change (errands pid).map _ = _ at running
      rw [given] at running
      exact (Option.some.inj running).symm
    subst started
    refine ⟨{}, checks_keeps_checker, nofun, ?_, nofun⟩
    intro path answer
    simp [attending]
  placers _ member := absurd member List.not_mem_nil

/-- Only an installation places an engine. -/
theorem Attended.installs_of_places (attended : Attended directory version errands initial pool)
    {next : request.Answer → Procedure Finding} (waiting : pool.processes pid = some (.ask request next))
    (places : Exchange.places ⟨pid, request, answer⟩ = true) :
    ∃ wanted, errands pid = some (.installs wanted) := by
  obtain ⟨_, _, hired, _⟩ := attended.sound.processes pid _ waiting
  obtain ⟨errand, given, _⟩ := Option.map_eq_some_iff.mp hired
  cases errand with
  | installs wanted => exact ⟨wanted, given⟩
  | checks descriptor =>
      obtain ⟨sighting, ⟨viewing, _⟩, _⟩ := attended.checks pid descriptor _ given waiting
      rw [Viewing.places viewing pid] at places
      cases places

theorem Attended.step
    (within : ∀ pid errand, errands pid = some errand →
      errand.descriptor.cacheDir.components = directory.components)
    (untold : ¬MarkerTells initial directory version)
    (attended : Attended directory version errands initial pool) (step : pool.Step after) :
    Attended directory version errands initial after := by
  have sound := attended.sound.step step
  cases step with
  | answered pid request next answer files waiting responds =>
      refine ⟨sound, ?_, ?_⟩
      · intro other descriptor procedure given running
        change Function.update pool.processes pid _ other = _ at running
        by_cases same : other = pid
        · subst same
          rw [Function.update_self] at running
          cases running
          obtain ⟨sighting, ⟨viewing, keeps⟩, saw⟩ := attended.checks other descriptor _ given waiting
          exact ⟨_, keeps answer, saw.learn attended untold (within other _ given) viewing responds⟩
        · rw [Function.update_of_ne same] at running
          obtain ⟨sighting, keeps, saw⟩ := attended.checks other descriptor procedure given running
          exact ⟨sighting, keeps, saw.beside fun _ _ equal => same (congrArg Exchange.process equal)⟩
      · intro exchange member places
        rcases List.mem_cons.mp member with rfl | earlier
        · exact attended.installs_of_places waiting places
        · exact attended.placers exchange earlier places
  | underway pid path contents next left waiting partly =>
      exact ⟨sound, attended.checks, attended.placers⟩
  | stopped pid request next left waiting partly =>
      refine ⟨sound, ?_, attended.placers⟩
      intro other descriptor procedure given running
      change Function.update pool.processes pid none other = _ at running
      by_cases same : other = pid
      · subst same
        rw [Function.update_self] at running
        cases running
      · rw [Function.update_of_ne same] at running
        exact attended.checks other descriptor procedure given running

theorem Attended.reaches
    (within : ∀ pid errand, errands pid = some errand →
      errand.descriptor.cacheDir.components = directory.components)
    (untold : ¬MarkerTells initial directory version)
    (attended : Attended directory version errands initial pool) (reached : pool.Reaches after) :
    Attended directory version errands initial after := by
  induction reached with
  | refl => exact attended
  | tail _ step ih => exact ih.step within untold step

end

/-- Where the marker did not tell a version at first, a check that finds the cache usable for that version has
opened one engine only, which is an archive that one of the installations has downloaded as a whole. And once
the marker tells the version, the engine is such a download for ever, archive or not. -/
theorem checks_beside_installations {directory : Path} {version : String} {errands : Nat → Option Errand}
    {initial : MemoryFiles} {pool : Pool Finding}
    (within : ∀ pid errand, errands pid = some errand →
      errand.descriptor.cacheDir.components = directory.components)
    (untold : ¬MarkerTells initial directory version)
    (reached : (attending initial errands).Reaches pool) :
    (∀ pid descriptor state, errands pid = some (.checks descriptor) → descriptor.expectedVersion = version →
      pool.processes pid = some (.done (.checked state)) → state.isUsable version = true →
      ∃ contents, (∀ path answer, ⟨pid, .openFile path, answer⟩ ∈ pool.log ↔
          path = descriptor.artifactPath ∧ answer = .ok contents) ∧
        startsAsArchive contents = true ∧ contents ≠ [] ∧ BroughtIn errands pool.log contents) ∧
    (MarkerTells pool.files directory version → ∀ later, pool.Reaches later →
      ∃ contents, later.files.inside directory artifactName = some (.file contents) ∧ contents ≠ [] ∧
        BroughtIn errands later.log contents) := by
  have attended := (attended_start within).reaches within untold reached
  constructor
  · rintro pid descriptor state given rfl ended usable
    obtain ⟨sighting, justified, saw⟩ := attended.checks pid descriptor _ given ended
    obtain ⟨contents, opened, archive⟩ := justified usable
    have brought := saw.brought rfl contents opened
    refine ⟨contents, ?_, archive, brought.ne_nil, brought⟩
    intro path answer
    rw [saw.opened, opened, Option.some.injEq, eq_comm (a := answer)]
  · intro told later onward
    obtain ⟨exchange, member, places⟩ := attended.sound.exists_places untold told
    have longer : pool.log ⊆ later.log := (Pool.Reaches.log_suffix onward).subset
    obtain ⟨contents, found, brought⟩ :=
      (attended.reaches within untold onward).engine ⟨exchange, longer member, places⟩
    exact ⟨contents, found, brought.ne_nil, brought⟩

/-- A first installation with a check beside it. -/
def firstAttendants : Nat → Option Errand
  | 1 => some (.installs (release "1.0.0"))
  | 2 => some (.checks (release "1.0.0"))
  | _ => none

/-- The installation runs to its end, and then the check finds the cache usable. -/
theorem exists_checked_pool :
    ∃ (pool : Pool Finding) (state : State), (attending {} firstAttendants).Reaches pool ∧
      pool.processes 2 = some (.done (.checked state)) ∧ state.isUsable "1.0.0" = true := by
  obtain ⟨reason, after, installed, readable, held⟩ := outcome_install_first 1 document_serveReleases_first
  have usable : Usable after.files (release "1.0.0") := by
    rw [usable_iff_holding held fun _ => by rw [readable]]
    exact ⟨⟨_, rfl, by decide⟩, _, rfl, by decide +kernel⟩
  have first : (attending {} firstAttendants).processes 1 =
      some (ExceptT.run (install 1 (release "1.0.0")) >>= fun result => .done (.installed result)) := rfl
  obtain ⟨log, _, installing⟩ := Pool.reaches_run serveReleases _ _ first { files := {} } rfl
  change (ExceptT.run (install 1 (release "1.0.0"))).run (Computer.answer serveReleases) _ = _ at installed
  rw [installed] at installing
  generalize now : (⟨after.files, _, _⟩ : Pool Finding) = filled at installing
  have second : filled.processes 2 = some (observe (release "1.0.0") >>= fun state => .done (.checked state)) := by
    rw [← now]
    rfl
  have same : filled.files = after.files := by rw [← now]
  obtain ⟨more, _, checking⟩ := Pool.reaches_run serveReleases _ _ second after same
  rw [run_observe] at checking
  exact ⟨_, _, installing.trans checking, rfl, usable⟩

/-- After a first installation, what the check has opened is an engine that was brought in. -/
theorem check_after_first_installation :
    ∃ (pool : Pool Finding) (state : State), (attending {} firstAttendants).Reaches pool ∧
      pool.processes 2 = some (.done (.checked state)) ∧ state.isUsable "1.0.0" = true ∧
      ∃ contents, startsAsArchive contents = true ∧ BroughtIn firstAttendants pool.log contents := by
  obtain ⟨pool, state, reached, ended, usable⟩ := exists_checked_pool
  have within : ∀ pid errand, firstAttendants pid = some errand →
      errand.descriptor.cacheDir.components = (Path.ofString "cache").components := by
    intro pid errand given
    unfold firstAttendants at given
    split at given
    · cases given
      rfl
    · cases given
      rfl
    · cases given
  have untold : ¬MarkerTells {} (.ofString "cache") "1.0.0" := by
    rintro ⟨contents, _, found, _⟩
    cases found
  obtain ⟨checked, _⟩ := checks_beside_installations within untold reached
  obtain ⟨contents, _, archive, _, brought⟩ := checked 2 (release "1.0.0") state rfl rfl ended usable
  exact ⟨pool, state, reached, ended, usable, contents, archive, brought⟩

end JarLauncher.Cache
