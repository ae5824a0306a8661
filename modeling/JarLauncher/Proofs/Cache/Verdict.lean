import JarLauncher.Installer
import JarLauncher.Launch
import JarLauncher.Proofs.Cache.CheckerProtocol
import JarLauncher.Proofs.Cache.Installation
import JarLauncher.Rehearsal.Host
import JarLauncher.Text.Utf8.Exact

/-!
The verdict on a cache, told by what stands at the two paths of a descriptor. The installer's report and the launcher's
gate come to the same verdict, and on the way to it no file is changed and no server is asked.
-/

namespace JarLauncher

namespace Machine

/-- Whether a request only asks for what is in a file, or whether there is one. -/
def Request.reads : Request → Bool
  | .isFile _ | .readText _ | .openFile _ | .readSettings _ => true
  | _ => false

/-- Whether a request changes no file and goes to no server. -/
def Request.looks : Request → Bool
  | .askVersion _ | .say _ => true
  | request => request.reads

theorem Request.looks_of_reads {request : Request} (reads : request.reads = true) : request.looks = true := by
  cases request with
  | askVersion java => rfl
  | say line => rfl
  | _ => exact reads

end Machine

namespace Cache

open Files Machine

/-- Whether the engine of a cache can be opened and starts like an archive. -/
def HoldsArchive (files : MemoryFiles) (descriptor : Descriptor) : Prop :=
  ∃ contents, files.Opens descriptor.artifactPath contents ∧ contents.take 4 = [0x50, 0x4B, 0x03, 0x04]

/-- Whether the marker of a cache can be opened and is text that tells a version, with blanks around it or not. -/
def Tells (files : MemoryFiles) (descriptor : Descriptor) (version : String) : Prop :=
  ∃ text, files.Opens descriptor.markerPath (Utf8.encode text) ∧ Text.trim text = version

/-- Whether there is a file in the place of the engine. -/
def Present (files : MemoryFiles) (descriptor : Descriptor) : Prop :=
  ∃ contents, files.find? descriptor.artifactPath = some (.file contents)

/-- What a plan says of a cache. -/
structure Planned (files : MemoryFiles) (descriptor : Descriptor) (plan : Plan) : Prop where
  upToDate_iff : plan = .upToDate ↔ HoldsArchive files descriptor ∧ Tells files descriptor descriptor.expectedVersion
  corrupted_iff : plan = .refresh .corrupted ↔
    Present files descriptor ∧ Tells files descriptor descriptor.expectedVersion ∧ ¬HoldsArchive files descriptor
  versionMismatch_iff : ∀ cached, plan = .refresh (.versionMismatch cached) ↔
    Present files descriptor ∧ Tells files descriptor cached ∧ cached ≠ descriptor.expectedVersion
  missing_iff : plan = .refresh .missing ↔
    ¬Present files descriptor ∨ ∀ version, ¬Tells files descriptor version

section

variable {files : MemoryFiles} {descriptor : Descriptor} {version : String}

theorem isFile_iff_present : files.isFile descriptor.artifactPath = true ↔ Present files descriptor :=
  MemoryFiles.isFile_eq_true

theorem markerSeen_iff_tells : markerSeen files descriptor = some version ↔ Tells files descriptor version := by
  simp only [markerSeen_eq_some, Tells, MemoryFiles.readText_eq_ok, MemoryFiles.read_eq_ok_iff, Utf8.decode_eq_ok]
  constructor
  · rintro ⟨text, ⟨_, opens, rfl⟩, told⟩
    exact ⟨text, opens, told⟩
  · rintro ⟨text, opens, told⟩
    exact ⟨text, ⟨_, opens, rfl⟩, told⟩

theorem archiveSeen_iff_holdsArchive : archiveSeen files descriptor = true ↔ HoldsArchive files descriptor := by
  simp only [archiveSeen_eq_true, HoldsArchive, MemoryFiles.read_eq_ok_iff, startsAsArchive, decide_eq_true_eq]
  rfl

theorem HoldsArchive.present (holds : HoldsArchive files descriptor) : Present files descriptor := by
  obtain ⟨contents, opens, _⟩ := holds
  exact ⟨contents, opens.2⟩

/-- A plan asks for the engine, then for the marker, and only then into the engine. -/
theorem ofState_seen :
    Plan.ofState (seen files descriptor) descriptor.expectedVersion =
      match files.isFile descriptor.artifactPath, markerSeen files descriptor with
      | true, some version =>
        if version = descriptor.expectedVersion then
          if archiveSeen files descriptor then .upToDate else .refresh .corrupted
        else .refresh (.versionMismatch version)
      | _, _ => .refresh .missing := by
  unfold Plan.ofState State.isUsable State.isCorrupted State.claims seen
  cases files.isFile descriptor.artifactPath with
  | false => cases markerSeen files descriptor <;> rfl
  | true =>
      cases markerSeen files descriptor with
      | none => rfl
      | some version =>
          by_cases same : version = descriptor.expectedVersion
          · cases archiveSeen files descriptor <;> simp [same]
          · simp [same]

theorem planned_seen : Planned files descriptor (Plan.ofState (seen files descriptor) descriptor.expectedVersion) := by
  have opened : archiveSeen files descriptor = true → files.isFile descriptor.artifactPath = true := by
    rw [archiveSeen_iff_holdsArchive, isFile_iff_present]
    exact HoldsArchive.present
  rw [ofState_seen]
  constructor
  all_goals
    simp only [← isFile_iff_present, ← markerSeen_iff_tells, ← archiveSeen_iff_holdsArchive]
    cases present : files.isFile descriptor.artifactPath with
    | false =>
        rw [present] at opened
        have unopened : archiveSeen files descriptor = false := Bool.eq_false_iff.mpr fun valid => nomatch opened valid
        simp [unopened]
    | true =>
        cases told : markerSeen files descriptor with
        | none => simp
        | some version =>
            by_cases same : version = descriptor.expectedVersion
            · cases archiveSeen files descriptor <;> simp [same]
            · simp [same]

/-- What is usable is what a plan has nothing to do for. -/
theorem isUsable_iff_planned {World : Type} (answering : Answering World) (world : World) :
    ((isUsable descriptor).run answering world).1 = true ↔ ((plan descriptor).run answering world).1 = .upToDate := by
  unfold isUsable plan
  rw [Procedure.run_bind, Procedure.run_bind]
  generalize (observe descriptor).run answering world = observed
  cases observed with
  | mk state after =>
  change state.isUsable descriptor.expectedVersion = true ↔ Plan.ofState state descriptor.expectedVersion = .upToDate
  unfold Plan.ofState
  cases state.isUsable descriptor.expectedVersion with
  | true => simp
  | false =>
      simp only [Bool.false_eq_true, if_false, false_iff]
      (repeat' split) <;> simp

end

section Looking

variable {descriptor : Descriptor} {account : Account} {arguments : CommandLine.Arguments} {reader : Toml.Reader}

theorem observe_onlyReads (descriptor : Descriptor) : (observe descriptor).Only Request.reads := by
  have kept : (observe descriptor).Keeps (checkerProtocol descriptor) _ {} := observe_keeps_checker rfl
  apply kept.only
  intro sighting request viewing
  cases request with
  | isFile path | readText path | openFile path => rfl
  | _ => exact viewing.elim

theorem plan_onlyReads (descriptor : Descriptor) : (plan descriptor).Only Request.reads :=
  Procedure.only_bind (observe_onlyReads descriptor) fun _ => trivial

theorem isUsable_onlyReads (descriptor : Descriptor) : (isUsable descriptor).Only Request.reads :=
  Procedure.only_bind (observe_onlyReads descriptor) fun _ => trivial

theorem load_onlyReads (account : Account) (explicit : Option Path) :
    (Config.load account explicit reader).Only Request.reads := by
  have reads (path : Path) : (RawConfig.load path reader).Only Request.reads := by
    unfold RawConfig.load
    apply Procedure.only_bind (Procedure.only_request rfl)
    intro answer
    cases answer with
    | error fault => exact trivial
    | ok contents =>
        dsimp only
        cases Utf8.decode? contents <;> exact trivial
  unfold Config.load
  cases account.configPath explicit with
  | none => exact Attempt.only_done _
  | some path => exact Attempt.only_bind (reads path) fun _ => Attempt.only_done _

theorem report_onlyLooks (descriptor : Descriptor) (plan : Plan) :
    (Installer.report descriptor plan).Only Request.looks := by
  have speaks (line : String) : (Installer.say line).Only Request.looks :=
    Attempt.only_lift (Procedure.only_request rfl)
  cases plan with
  | upToDate => exact Attempt.only_bind (speaks _) fun _ => trivial
  | refresh reason => exact Attempt.only_bind (speaks _) fun _ => trivial

/-- An installer that is only to check only looks. -/
theorem check_onlyLooks (account : Account) (pid : Nat) (checks : arguments.check = true) :
    (Installer.run account pid arguments reader).Only Request.looks := by
  have loads : (Config.load account arguments.config reader).Only Request.looks :=
    (load_onlyReads account arguments.config).mono fun _ => Request.looks_of_reads
  have plans (descriptor : Descriptor) : (plan descriptor).Only Request.looks :=
    (plan_onlyReads descriptor).mono fun _ => Request.looks_of_reads
  unfold Installer.run
  apply Attempt.only_bind loads
  intro config
  apply Attempt.only_bind (Attempt.only_done _)
  intro descriptor
  apply Attempt.only_bind (Attempt.only_lift (plans descriptor))
  intro plan
  rw [if_pos checks]
  exact report_onlyLooks descriptor plan

theorem prepare_onlyLooks (probe : JavaRuntime.Probe) (descriptor : Descriptor) :
    (Launch.prepare probe descriptor).Only Request.looks := by
  have validated : probe.validate.Only Request.looks :=
    Procedure.only_bind (Procedure.only_bind (Procedure.only_request rfl) fun _ => trivial) fun _ => trivial
  have checked : (isUsable descriptor).Only Request.looks :=
    (isUsable_onlyReads descriptor).mono fun _ => Request.looks_of_reads
  apply Attempt.only_bind validated
  intro info
  apply Attempt.only_bind (Attempt.only_lift checked)
  intro usable
  cases usable <;> exact trivial

end Looking

section Hosted

open Rehearsal

variable {files : MemoryFiles} {descriptor : Descriptor} {account : Account} {arguments : CommandLine.Arguments}
  {config : Config} {pid : Nat}

theorem shows_host (host : Host) (files : MemoryFiles) :
    Shows Host.answer { host with memory := some files } files where
  isFile _ := rfl
  readText _ := rfl
  openFile _ := rfl

theorem unchanged_of_reads (request : Request) (host : Host) (reads : request.reads = true) :
    (Host.answer request host).2 = host := by
  cases request with
  | isFile path | readText path | openFile path | readSettings path => rfl
  | _ => cases reads

/-- An account that names no configuration file has the default settings. -/
theorem outcome_load_of_unnamed {World : Type} {answering : Answering World} {world : World} {explicit : Option Path}
    (unnamed : account.configPath explicit = none) :
    Attempt.outcome answering (Config.load account explicit) world = (RawConfig.accept {}, world) := by
  unfold Config.load
  rw [unnamed]
  rfl

/-- What the installer's check and the launcher's gate make of a cache that is usable or not. -/
structure SameVerdict (host : Host) (account : Account) (pid : Nat) (arguments : CommandLine.Arguments)
    (descriptor : Descriptor) (usable : Bool) : Prop where
  /-- The installer says one line and ends. -/
  check : ∃ line, Attempt.outcome Host.answer (Installer.run account pid arguments) host =
    (.ok (if usable then successCode else failureCode),
      { host with printed := host.printed ++ Utf8.encode (line ++ "\n") })
  /-- With a runtime that has been accepted, the gate is open or shut. -/
  gate : ∀ probe start info, Attempt.outcome Host.answer (JavaRuntime.Probe.validate probe) start = (.ok info, host) →
    Attempt.outcome Host.answer (Launch.prepare probe descriptor) start =
      (if usable then .ok () else .error (.cacheUnusable descriptor.expectedVersion), host)

theorem outcome_report (host : Host) (descriptor : Descriptor) (plan : Plan) :
    ∃ line, Attempt.outcome Host.answer (Installer.report descriptor plan) host =
      (.ok (if plan = .upToDate then successCode else failureCode),
        { host with printed := host.printed ++ Utf8.encode (line ++ "\n") }) := by
  cases plan with
  | upToDate => exact ⟨_, rfl⟩
  | refresh reason => exact ⟨_, rfl⟩

theorem sameVerdict (host : Host) (checks : arguments.check = true)
    (loaded : (Attempt.outcome Host.answer (Config.load account arguments.config) host).1 = .ok config)
    (described : config.descriptor account.home = .ok descriptor) :
    SameVerdict host account pid arguments descriptor ((isUsable descriptor).run Host.answer host).1 := by
  constructor
  case check =>
    have configured : Attempt.outcome Host.answer (Config.load account arguments.config) host = (.ok config, host) :=
      Prod.ext loaded ((load_onlyReads account arguments.config).run_unchanged unchanged_of_reads host)
    have located : Attempt.outcome Host.answer (ExceptT.mk (.done (config.descriptor account.home))) host =
        (.ok descriptor, host) := by
      rw [described]
      rfl
    have planned : Attempt.outcome Host.answer (ExceptT.lift (plan descriptor)) host =
        (.ok ((plan descriptor).run Host.answer host).1, host) := by
      rw [Attempt.outcome_lift, (plan_onlyReads descriptor).run_unchanged unchanged_of_reads host]
    obtain ⟨line, reported⟩ := outcome_report host descriptor ((plan descriptor).run Host.answer host).1
    refine ⟨line, ?_⟩
    unfold Installer.run
    rw [Attempt.outcome_bind_of_ok configured, Attempt.outcome_bind_of_ok located,
      Attempt.outcome_bind_of_ok planned, if_pos checks, reported]
    simp only [isUsable_iff_planned Host.answer host]
  case gate =>
    intro probe start info validated
    have verdict : Attempt.outcome Host.answer (ExceptT.lift (isUsable descriptor)) host =
        (.ok ((isUsable descriptor).run Host.answer host).1, host) := by
      rw [Attempt.outcome_lift, (isUsable_onlyReads descriptor).run_unchanged unchanged_of_reads host]
    unfold Launch.prepare
    rw [Attempt.outcome_bind_of_ok validated, Attempt.outcome_bind_of_ok verdict]
    cases ((isUsable descriptor).run Host.answer host).1 <;> rfl

/-- Whether a cache is usable, and why it is not, is told by what stands at its two paths. On every machine the
installer's check and the launcher's gate agree on it, and neither of them changes a file or goes to a server. -/
theorem verdict_exact :
    (∀ (host : Host) (files : MemoryFiles) (descriptor : Descriptor),
      let machine := { host with memory := some files }
      (((isUsable descriptor).run Host.answer machine).1 = true ↔
        HoldsArchive files descriptor ∧ Tells files descriptor descriptor.expectedVersion) ∧
      Planned files descriptor ((plan descriptor).run Host.answer machine).1) ∧
    (∀ (host : Host) (account : Account) (pid : Nat) (arguments : CommandLine.Arguments) (config : Config)
      (descriptor : Descriptor), arguments.check = true →
      (Attempt.outcome Host.answer (Config.load account arguments.config) host).1 = .ok config →
      config.descriptor account.home = .ok descriptor →
      SameVerdict host account pid arguments descriptor ((isUsable descriptor).run Host.answer host).1) ∧
    ∀ {World : Type} (answering : Answering World) (world : World),
      (∀ (account : Account) (pid : Nat) (arguments : CommandLine.Arguments), arguments.check = true →
        ∀ request ∈ (Installer.run account pid arguments).run.requests answering world, request.looks = true) ∧
      ∀ (probe : JavaRuntime.Probe) (descriptor : Descriptor),
        ∀ request ∈ (Launch.prepare probe descriptor).run.requests answering world, request.looks = true := by
  refine ⟨?_, ?_, ?_⟩
  · intro host files descriptor machine
    have shows : Shows Host.answer machine files := shows_host host files
    have planned : Planned files descriptor ((plan descriptor).run Host.answer machine).1 := by
      rw [shows.run_plan]
      exact planned_seen
    exact ⟨(isUsable_iff_planned Host.answer machine).trans planned.upToDate_iff, planned⟩
  · intro host account pid arguments config descriptor checks loaded described
    exact sameVerdict host checks loaded described
  · intro World answering world
    constructor
    · intro account pid arguments checks
      exact (check_onlyLooks account pid checks).allowed_of_mem_requests answering world
    · intro probe descriptor
      exact (prepare_onlyLooks probe descriptor).allowed_of_mem_requests answering world

/-- A machine with an archive in the usual cache, and a marker with blanks around its version. -/
def markedHost : Host where
  memory :=
    let engine := MemoryFiles.addFile {} (.ofString "home/.apex-ls-mcp/apex-ls-mcp.jar") archiveSignature
    some (engine.addFile (.ofString "home/.apex-ls-mcp/version.txt") (Utf8.encode " 5.9.0\n"))

def markedAccount : Account where
  homeVariable := some (Utf8.encode "home")

theorem verdict_markedHost :
    ∃ line, Attempt.outcome Host.answer (Installer.run markedAccount 7 { check := true }) markedHost =
      (.ok successCode, { markedHost with printed := Utf8.encode (line ++ "\n") }) := by
  have sound : RawConfig.fault? {} = none := by decide +kernel
  have loaded : (Attempt.outcome Host.answer (Config.load markedAccount none) markedHost).1 =
      .ok (RawConfig.normalized {}) := by
    rw [outcome_load_of_unnamed rfl, RawConfig.accept, sound]
  have located : (RawConfig.normalized {}).descriptor markedAccount.home =
      .ok ((RawConfig.normalized {}).descriptorIn (.ofString "home/.apex-ls-mcp")) := by
    have joined : (Path.mk (Utf8.encode "home")).join (.ofString cacheDirName) = .ofString "home/.apex-ls-mcp" := by
      decide +kernel
    exact congrArg (fun directory => Except.ok ((RawConfig.normalized {}).descriptorIn directory)) joined
  have usable : ((isUsable ((RawConfig.normalized {}).descriptorIn (.ofString "home/.apex-ls-mcp"))).run
      Host.answer markedHost).1 = true := by
    decide +kernel
  have same := verdict_exact.2.1 markedHost markedAccount 7 { check := true } _ _ rfl loaded located
  rw [usable] at same
  exact same.check

end Hosted
end Cache
end JarLauncher
