import JarLauncher.Launch
import JarLauncher.Proofs.Cache.Installation
import JarLauncher.Proofs.Supervision.Schedule

/-!
The gates of a launch, in their order: the runtime has to tell a version that is new enough, and then the cache has
to be usable. Behind them the engine is started once; before them nothing is.
-/

namespace JarLauncher.Launch

open Files Machine JavaRuntime Supervision

/-- What a launcher meets on its machine besides files. -/
structure Setting (World : Type) where
  /-- What comes of asking a runtime, given by name, for its version. -/
  report : String → Except IoFault SelfReport
  /-- Whether signals can be listened to. -/
  listening : Except IoFault Unit
  surroundings : Surroundings World

/-- A machine on which a launcher runs, with all calls of its supervisor. -/
structure Stage (World : Type) where
  computer : Computer
  world : World
  calls : List Call := []

namespace Setting

variable {World : Type} (setting : Setting World)

/-- Listens to signals, and then supervises a child. -/
def supervise (program : Bytes) (args : List Bytes) (stage : Stage World) :
    Except LauncherError Termination × Stage World :=
  match setting.listening with
  | .error fault => (.error (.io fault), stage)
  | .ok () =>
    let (result, world, calls) :=
      Supervision.supervise setting.surroundings.recorded program args (stage.world, [])
    (result, { stage with world, calls := stage.calls ++ calls })

def answer : Answering (Stage World)
  | .askVersion java, stage => (setting.report java, stage)
  | .supervise program args, stage => setting.supervise (Utf8.encode program) args stage
  | request, stage =>
    let (answer, computer) := Computer.answer (fun _ => .failed "") request stage.computer
    (answer, { stage with computer })

end Setting

/-- The major version of a runtime, or why it is not available. -/
def runtimeMajor : Except IoFault SelfReport → Except String Nat
  | .error fault => .error fault.message
  | .ok report =>
    if report.exitedOk then
      match JavaVersion.parse? (Utf8.decodeLossy report.printed) with
      | some version => .ok version.major
      | none => .error unparseableVersion
    else .error notFoundInPath

/-- Why a launch is refused, if it is: the runtime counts before the cache. -/
def refusal? (config : Config) (runtime : Except IoFault SelfReport) (files : MemoryFiles)
    (descriptor : Cache.Descriptor) : Option LauncherError :=
  match runtimeMajor runtime with
  | .error reason => some (.runtimeMissing reason config.minJavaMajor)
  | .ok major =>
    if major < config.minJavaMajor then some (.incompatibleRuntime major config.minJavaMajor)
    else if (Cache.seen files descriptor).isUsable descriptor.expectedVersion then none
    else some (.cacheUnusable config.jarVersion)

section

variable {World : Type} {setting : Setting World} {config : Config} {home : Option Path}
  {descriptor : Cache.Descriptor} {passthrough : List Bytes} {stage : Stage World}

/-- The verdict on a runtime depends on its major version alone. -/
theorem judge_ofSelfReport (runtime : Except IoFault SelfReport) (minimum : Nat) :
    match runtimeMajor runtime with
    | .error reason => (Info.ofSelfReport runtime minimum).judge minimum = .error (.runtimeMissing reason minimum)
    | .ok major =>
      if major < minimum then
        (Info.ofSelfReport runtime minimum).judge minimum = .error (.incompatibleRuntime major minimum)
      else ∃ info, (Info.ofSelfReport runtime minimum).judge minimum = .ok info := by
  cases runtime with
  | error fault => rfl
  | ok report =>
      simp only [runtimeMajor, Info.ofSelfReport, Info.ofOutput]
      cases report.exitedOk with
      | false => rfl
      | true =>
          cases JavaVersion.parse? (Utf8.decodeLossy report.printed) with
          | none => rfl
          | some version =>
              by_cases old : version.major < minimum
              · simp [old, Info.judge, Info.ofVersion]
              · simp [old, Info.judge, Info.ofVersion, Nat.not_lt.mp old]

theorem shows_answer (setting : Setting World) (stage : Stage World) :
    Cache.Shows setting.answer stage stage.computer.files where
  isFile _ := rfl
  readText _ := rfl
  openFile _ := rfl

theorem descriptor_expectedVersion (described : config.descriptor home = .ok descriptor) :
    descriptor.expectedVersion = config.jarVersion := by
  obtain ⟨directory, rfl⟩ := Config.exists_descriptorIn described
  rfl

/-- The gates pass exactly what is not refused, and they leave everything as it was. -/
theorem outcome_prepare (described : config.descriptor home = .ok descriptor) :
    Attempt.outcome setting.answer (prepare ⟨config.java, config.minJavaMajor⟩ descriptor) stage =
      (match refusal? config (setting.report config.java) stage.computer.files descriptor with
        | some error => .error error
        | none => .ok (), stage) := by
  have validated : Attempt.outcome setting.answer (Probe.validate ⟨config.java, config.minJavaMajor⟩) stage =
      ((Info.ofSelfReport (setting.report config.java) config.minJavaMajor).judge config.minJavaMajor, stage) := rfl
  have looked : Attempt.outcome setting.answer (ExceptT.lift (Cache.isUsable descriptor)) stage =
      (.ok ((Cache.seen stage.computer.files descriptor).isUsable descriptor.expectedVersion), stage) := by
    rw [Attempt.outcome_lift, (shows_answer setting stage).run_isUsable]
  have verdict := judge_ofSelfReport (setting.report config.java) config.minJavaMajor
  unfold prepare refusal?
  cases told : runtimeMajor (setting.report config.java) with
  | error reason =>
      rw [told] at verdict
      rw [verdict] at validated
      rw [Attempt.outcome_bind_of_error validated]
  | ok major =>
      rw [told] at verdict
      by_cases old : major < config.minJavaMajor
      · simp only [old, if_true] at verdict ⊢
        rw [verdict] at validated
        rw [Attempt.outcome_bind_of_error validated]
      · simp only [old, if_false] at verdict ⊢
        obtain ⟨info, accepted⟩ := verdict
        rw [accepted] at validated
        rw [Attempt.outcome_bind_of_ok validated, Attempt.outcome_bind_of_ok looked,
          ← descriptor_expectedVersion described]
        cases (Cache.seen stage.computer.files descriptor).isUsable descriptor.expectedVersion <;> rfl

/-- What is refused ends there; what is not is supervised. -/
theorem outcome_run (described : config.descriptor home = .ok descriptor) :
    Attempt.outcome setting.answer (run config home passthrough) stage =
      match refusal? config (setting.report config.java) stage.computer.files descriptor with
      | some error => (.error error, stage)
      | none =>
        let (ended, after) :=
          setting.supervise (Utf8.encode config.java) (runtimeArgs descriptor passthrough) stage
        (ended.mapError (·.withRequired config.minJavaMajor), after) := by
  have located : Attempt.outcome setting.answer (ExceptT.mk (.done (config.descriptor home))) stage =
      (.ok descriptor, stage) := by
    rw [described]
    rfl
  have prepared :
      Attempt.outcome setting.answer (prepare ⟨config.java, config.minJavaMajor⟩ descriptor) stage = _ :=
    outcome_prepare described
  unfold run
  rw [Attempt.outcome_bind_of_ok located]
  cases refusal : refusal? config (setting.report config.java) stage.computer.files descriptor with
  | some error =>
      rw [refusal] at prepared
      rw [Attempt.outcome_bind_of_error prepared]
  | none =>
      rw [refusal] at prepared
      rw [Attempt.outcome_bind_of_ok prepared]
      rfl

end

/-- Whether a launch passes all gates. -/
def Cleared (config : Config) (runtime : Except IoFault SelfReport) (files : MemoryFiles)
    (descriptor : Cache.Descriptor) : Prop :=
  ∃ major, runtimeMajor runtime = .ok major ∧ config.minJavaMajor ≤ major ∧ Cache.Usable files descriptor

/-- What comes of a launch, told by its result and by the calls of its supervisor. -/
structure Gated {World : Type} (setting : Setting World) (config : Config) (descriptor : Cache.Descriptor)
    (passthrough : List Bytes) (start : Stage World) (result : Except LauncherError Termination)
    (after : Stage World) : Prop where
  runtimeMissing : ∀ reason, runtimeMajor (setting.report config.java) = .error reason →
    result = .error (.runtimeMissing reason config.minJavaMajor) ∧ after = start
  incompatibleRuntime : ∀ major, runtimeMajor (setting.report config.java) = .ok major →
    major < config.minJavaMajor →
    result = .error (.incompatibleRuntime major config.minJavaMajor) ∧ after = start
  cacheUnusable : ∀ major, runtimeMajor (setting.report config.java) = .ok major →
    config.minJavaMajor ≤ major → ¬Cache.Usable start.computer.files descriptor →
    result = .error (.cacheUnusable config.jarVersion) ∧ after = start
  /-- Without a way to listen to signals there is no launch either. -/
  deaf : Cleared config (setting.report config.java) start.computer.files descriptor →
    ∀ fault, setting.listening = .error fault → result = .error (.io fault) ∧ after = start
  /-- A launch that fails is tried once, and its remedy names the version that would do. -/
  launchFailed : Cleared config (setting.report config.java) start.computer.files descriptor →
    setting.listening = .ok () →
    let args := Utf8.encode "-jar" :: descriptor.artifactPath.bytes :: passthrough
    ∀ fault, (setting.surroundings.launch (Utf8.encode config.java) args start.world).1 = .error fault →
    ∃ error, result = .error error ∧ error = .launchFailed config.java (some config.minJavaMajor) fault ∧
      error.hint = (if fault.kind = .notFound then
        some s!"Java not found. Please ensure Java {config.minJavaMajor}+ is installed and in your PATH."
        else none) ∧
      after.calls = start.calls ++ [.launched (Utf8.encode config.java) args]
  launched : Cleared config (setting.report config.java) start.computer.files descriptor →
    setting.listening = .ok () →
    let args := Utf8.encode "-jar" :: descriptor.artifactPath.bytes :: passthrough
    ∀ pid, (setting.surroundings.launch (Utf8.encode config.java) args start.world).1 = .ok pid →
    ∃ ended calls, result = ended.map Prod.fst ∧ after.calls = start.calls ++ calls ∧
      Supervised (Utf8.encode config.java) args pid ended calls
  launchedOnly : Call.launches after.calls ≠ Call.launches start.calls →
    Cleared config (setting.report config.java) start.computer.files descriptor

section

variable {World : Type} {setting : Setting World} {config : Config} {home : Option Path}
  {descriptor : Cache.Descriptor} {passthrough : List Bytes} {stage : Stage World} {program : Bytes}
  {args : List Bytes}

theorem supervise_of_deaf {fault : IoFault} (deaf : setting.listening = .error fault) :
    setting.supervise program args stage = (.error (.io fault), stage) := by
  rw [Setting.supervise, deaf]

theorem supervise_of_fault {fault : IoFault} (listens : setting.listening = .ok ())
    (failed : (setting.surroundings.launch program args stage.world).1 = .error fault) :
    ∃ after, setting.supervise program args stage =
        (.error (.launchFailed (Utf8.decodeLossy program) none fault), after) ∧
      after.calls = stage.calls ++ [.launched program args] := by
  rw [Setting.supervise, listens]
  simp only [supervise, superviseWithCore_recorded_of_fault failed]
  exact ⟨_, rfl, rfl⟩

/-- What a launch that succeeded comes to is what its supervised run comes to, and the calls of that run stand
behind the earlier ones. -/
theorem supervise_of_launched {pid : Option Nat} (listens : setting.listening = .ok ())
    (launched : (setting.surroundings.launch program args stage.world).1 = .ok pid) :
    ∃ ended calls after, setting.supervise program args stage = (ended.map Prod.fst, after) ∧
      after.calls = stage.calls ++ calls ∧ Supervised program args pid ended calls := by
  obtain ⟨turns, last, final, world, goesOn, passed, recordedRun, _⟩ :=
    superviseWithCore_recorded setting.surroundings program args pid stage.world launched
  rw [Setting.supervise, listens]
  simp only [supervise, recordedRun]
  exact ⟨_, _, _, rfl, rfl, supervised_of_turns program args pid goesOn passed⟩

/-- What passes all gates is not refused, and nothing else. -/
theorem refusal?_eq_none {runtime : Except IoFault SelfReport} {files : MemoryFiles} :
    refusal? config runtime files descriptor = none ↔ Cleared config runtime files descriptor := by
  unfold refusal? Cleared Cache.Usable
  cases runtimeMajor runtime with
  | error reason => simp
  | ok major =>
      by_cases old : major < config.minJavaMajor
      · simp [old, Nat.not_le.mpr old]
      · simp [old, Nat.not_lt.mp old]

end

/-- A launch without a place for the cache ends at once. Any other passes the gates in their order: a runtime that
is missing or too old ends it whatever is in the cache, and so does a cache that is not usable, before anything
was launched. Behind the gates, the engine is launched once with the arguments of the user as they are. -/
theorem run_gated {World : Type} (setting : Setting World) (config : Config) (home : Option Path)
    (passthrough : List Bytes) (stage : Stage World) :
    let ended := Attempt.outcome setting.answer (run config home passthrough) stage
    (∀ error, config.descriptor home = .error error → ended = (.error error, stage)) ∧
    ∀ descriptor, config.descriptor home = .ok descriptor →
      Gated setting config descriptor passthrough stage ended.1 ended.2 := by
  intro ended
  constructor
  · intro error unplaced
    have failed : Attempt.outcome setting.answer (ExceptT.mk (.done (config.descriptor home))) stage =
        (.error error, stage) := by
      rw [unplaced]
      rfl
    exact Attempt.outcome_bind_of_error failed _
  intro descriptor described
  have whole : ended = _ := outcome_run described
  rw [whole]
  constructor
  case runtimeMissing =>
    intro reason told
    simp [refusal?, told]
  case incompatibleRuntime =>
    intro major told old
    simp [refusal?, told, old]
  case cacheUnusable =>
    intro major told enough unusable
    unfold Cache.Usable at unusable
    simp [refusal?, told, Nat.not_lt.mpr enough, unusable]
  case deaf =>
    intro cleared fault deaf
    rw [refusal?_eq_none.mpr cleared]
    simp only [supervise_of_deaf deaf]
    exact ⟨rfl, trivial⟩
  case launchFailed =>
    intro cleared listens args fault failed
    obtain ⟨after, ended, called⟩ := supervise_of_fault listens failed
    rw [refusal?_eq_none.mpr cleared]
    change setting.supervise (Utf8.encode config.java) (runtimeArgs descriptor passthrough) stage = _ at ended
    simp only [ended]
    rw [Utf8.decodeLossy_encode]
    exact ⟨_, rfl, rfl, rfl, called⟩
  case launched =>
    intro cleared listens args pid launched
    obtain ⟨ended, calls, after, ran, called, supervised⟩ := supervise_of_launched listens launched
    rw [refusal?_eq_none.mpr cleared]
    change setting.supervise (Utf8.encode config.java) (runtimeArgs descriptor passthrough) stage = _ at ran
    simp only [ran]
    refine ⟨ended, calls, ?_, called, supervised⟩
    obtain ⟨_, _, _, _, ⟨_, _, _, same, _⟩ | ⟨fault, _, same⟩⟩ := supervised.decidedByLastWait
    · rw [same]
      rfl
    · rw [same]
      rfl
  case launchedOnly =>
    intro launches
    cases refusal : refusal? config (setting.report config.java) stage.computer.files descriptor with
    | some error =>
        rw [refusal] at launches
        exact absurd rfl launches
    | none => exact refusal?_eq_none.mp refusal

/-- A configuration with the cache in the directory `cache`. -/
def localConfig : Config where
  jarVersion := "1.0.0"
  downloadUrl := "http://localhost/" ++ Cache.placeholder ++ ".jar"
  java := "java"
  minJavaMajor := minimumMajor
  cacheDir := some (.ofString "cache")

/-- A runtime that is new enough, and a child that is hard to stop. -/
def readySetting : Setting Rehearsal.Script where
  report _ := .ok { exitedOk := true, printed := Utf8.encode "openjdk version \"21.0.1\"" }
  listening := .ok ()
  surroundings := Rehearsal.Script.surroundings

def readyStage : Stage Rehearsal.Script where
  computer :=
    let descriptor := localConfig.descriptorIn (.ofString "cache")
    let engine := MemoryFiles.addFile {} descriptor.artifactPath Cache.archiveSignature
    { files := engine.addFile descriptor.markerPath (Utf8.encode localConfig.jarVersion) }
  world := stubbornChild

theorem cleared_ready :
    Cleared localConfig (readySetting.report localConfig.java) readyStage.computer.files
      (localConfig.descriptorIn (.ofString "cache")) := by
  have said : JavaVersion.parse? "openjdk version \"21.0.1\"" =
      some { raw := "version \"21.0.1\"", token := "21", major := 21 } := by
    decide +kernel
  refine ⟨21, ?_, by decide, ?_⟩
  · simp only [runtimeMajor, readySetting, Utf8.decodeLossy_encode, said, if_true]
  · unfold Cache.Usable
    decide +kernel

/-- With everything ready, the child is launched and stayed with. -/
theorem run_ready :
    ∃ ended calls,
      (Attempt.outcome readySetting.answer (run localConfig none [Utf8.encode "--stdio"]) readyStage).1 =
        ended.map Prod.fst ∧
      Supervised (Utf8.encode "java")
        [Utf8.encode "-jar", Utf8.encode "cache/apex-ls-mcp.jar", Utf8.encode "--stdio"] (some 7) ended calls := by
  have gated := (run_gated readySetting localConfig none [Utf8.encode "--stdio"] readyStage).2 _ rfl
  obtain ⟨ended, calls, result, _, supervised⟩ := gated.launched cleared_ready rfl (some 7) rfl
  exact ⟨ended, calls, result, supervised⟩

end JarLauncher.Launch
