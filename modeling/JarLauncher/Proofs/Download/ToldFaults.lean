import JarLauncher.Proofs.Download.Steps
import JarLauncher.Proofs.Machine.Protocol

/-!
A download fails at the first fault of one of its steps and tells that fault, on any machine whatever. If no step has
been faulty, what it tells is the server's doing.
-/

namespace JarLauncher

namespace Machine

variable {World Value Result : Type}

/-- The first step of a download that fails in a run, with its fault. -/
def Procedure.stopped? (answering : Answering World) : Procedure Value → World → Option (Request × IoFault)
  | done _, _ => none
  | ask request next, world =>
    match request.fault? (answering request world).1 with
    | some fault => some (request, fault)
    | none => (next (answering request world).1).stopped? answering (answering request world).2

/-- The path with which a failed step of a download is told. -/
def Request.toldPath? : Request → Option Path
  | .createDirectories path | .createFile path | .append path _ | .flush path | .sync path | .size path => some path
  | .replace _ destination => some destination
  | _ => none

/-- Everything may be asked, and the first fault of a step is remembered. -/
def faultProtocol : Protocol (Option (Request × IoFault)) where
  Allows _ _ := True
  learn known request answer := known.or ((request.fault? answer).map (request, ·))

theorem learned_faultProtocol (answering : Answering World) (procedure : Procedure Value)
    (known : Option (Request × IoFault)) (world : World) :
    procedure.learned faultProtocol answering known world = known.or (procedure.stopped? answering world) := by
  induction procedure generalizing known world with
  | done value => exact Option.or_none.symm
  | ask request next ih =>
      calc
        (Procedure.ask request next).learned faultProtocol answering known world =
            (known.or ((request.fault? (answering request world).1).map (request, ·))).or
              ((next (answering request world).1).stopped? answering (answering request world).2) := ih _ _ _
        _ = known.or ((Procedure.ask request next).stopped? answering world) := by
          rw [Option.or_assoc, Procedure.stopped?]
          cases request.fault? (answering request world).1 <;> rfl

/-- Whether an error is what is to be told after this first fault of a step, or after none. -/
def Told (error : LauncherError) : Option (Request × IoFault) → Prop
  | some (request, fault) => ∃ path, request.toldPath? = some path ∧ error = .fetchFilesystem path fault
  | none => error.hint ≠ some LauncherError.permissionHint

/-- What is told of a step is explained as a lack of permission exactly if that is what the step has failed for. -/
theorem Told.hint_iff {error : LauncherError} {first : Option (Request × IoFault)} (told : Told error first) :
    error.hint = some LauncherError.permissionHint ↔
      ∃ request fault, first = some (request, fault) ∧ fault.kind = .permissionDenied := by
  cases first with
  | none =>
      refine iff_of_false told ?_
      rintro ⟨_, _, same, _⟩
      cases same
  | some stop =>
      obtain ⟨path, -, rfl⟩ := told
      rw [LauncherError.hint]
      by_cases denied : stop.2.kind = .permissionDenied
      · exact iff_of_true (if_pos denied) ⟨stop.1, stop.2, rfl, denied⟩
      · rw [if_neg denied]
        refine iff_of_false (Option.some_ne_none _).symm ?_
        rintro ⟨request, fault, same, kind⟩
        cases same
        exact denied kind

namespace Attempt

/-- Whether an attempt fails at the first fault of a step, and tells it. -/
def TellsFaults (attempt : Attempt Value) : Prop :=
  attempt.Keeps faultProtocol (fun _ known => known = none) Told none

variable {attempt : Attempt Value} {next : Value → Attempt Result}

theorem tellsFaults_bind (first : attempt.TellsFaults) (rest : ∀ value, (next value).TellsFaults) :
    (attempt >>= next).TellsFaults := by
  apply keeps_bind
  apply Keeps.mono first
  · intro value known nothing
    subst nothing
    exact rest value
  · exact fun _ _ told => told

theorem tellsFaults_lift {procedure : Procedure Value}
    (silent : procedure.Keeps faultProtocol (fun _ known => known = none) none) :
    TellsFaults (ExceptT.lift procedure) :=
  keeps_lift silent

theorem tellsFaults_throw {error : LauncherError} (other : error.hint ≠ some LauncherError.permissionHint) :
    TellsFaults (throw error : Attempt Value) :=
  keeps_throw other

/-- Nothing is done behind an error. -/
theorem tellsFaults_throw_bind {error : LauncherError} (other : error.hint ≠ some LauncherError.permissionHint) :
    ((throw error : Attempt Value) >>= next).TellsFaults := by
  apply keeps_bind
  exact keeps_throw other

/-- A step is told with its path, if it fails. -/
theorem tellsFaults_step {request : Request} {asked : Procedure (Except IoFault Value)} {path : Path}
    (named : request.toldPath? = some path)
    (kept : asked.Keeps faultProtocol (fun answer known => known = (faultOf answer).map (request, ·)) none) :
    (faultAt path asked).TellsFaults := by
  apply keeps_faultAt
  apply kept.mono
  intro answer known same
  subst same
  cases answer with
  | ok value => rfl
  | error fault => exact ⟨path, named, rfl⟩

/-- What has failed is told all the same after a file is discarded. -/
theorem tellsFaults_discard {hidden : Path} (told : attempt.TellsFaults) :
    TellsFaults (tryCatch attempt fun error => do
      let _ ← ExceptT.lift (.request (.discard hidden))
      throw error) := by
  apply keeps_tryCatch
  apply Keeps.mono told fun _ _ nothing => nothing
  intro error known reason
  apply keeps_bind
  apply keeps_lift
  apply Procedure.keeps_request trivial
  intro answer
  apply keeps_throw
  have same : faultProtocol.learn known (.discard hidden) answer = known := Option.or_none
  rw [same]
  exact reason

end Attempt
end Machine

namespace Download

open Machine Attempt

variable {hidden place : Path}

theorem store_tellsFaults (above : hidden.parent? = some place) (url : String) (response : Response) :
    (store url hidden response).TellsFaults := by
  have appends (chunks : List Bytes) :
      TellsFaults (chunks.forM fun chunk => faultAt hidden (.request (.append hidden chunk))) := by
    induction chunks with
    | nil => exact rfl
    | cons chunk chunks ih =>
        exact tellsFaults_bind (tellsFaults_step rfl (Procedure.keeps_request trivial fun _ => rfl)) fun _ => ih
  unfold store
  simp only [above]
  apply tellsFaults_bind (tellsFaults_step rfl (Procedure.keeps_request trivial fun _ => rfl))
  intro _
  apply tellsFaults_bind (tellsFaults_step rfl (Procedure.keeps_request trivial fun _ => rfl))
  intro _
  apply tellsFaults_bind (appends response.chunks)
  intro _
  cases response.bodyEnd with
  | broken message => exact tellsFaults_throw_bind (by rw [LauncherError.hint]; decide)
  | complete =>
      apply tellsFaults_bind (tellsFaults_step rfl (Procedure.keeps_request trivial fun _ => rfl))
      intro _
      apply tellsFaults_bind (tellsFaults_step rfl (Procedure.keeps_request trivial fun _ => rfl))
      intro _
      apply tellsFaults_bind (tellsFaults_step rfl (Procedure.keeps_request trivial fun _ => rfl))
      intro size
      by_cases empty : size = 0
      · rw [if_pos empty]
        exact tellsFaults_throw (Option.some_ne_none _).symm
      · rw [if_neg empty]
        exact rfl

theorem collect_tellsFaults (above : hidden.parent? = some place) (url : String) :
    (collect url hidden).TellsFaults := by
  unfold collect
  apply tellsFaults_bind (tellsFaults_lift (Procedure.keeps_request trivial fun _ => rfl))
  intro transfer
  cases transfer with
  | failed message => exact tellsFaults_throw (by rw [LauncherError.hint]; decide)
  | response response =>
      by_cases missing : response.status = 404
      · simp only [missing, if_true]
        exact tellsFaults_throw_bind (Option.some_ne_none _).symm
      cases success : response.isSuccess with
      | false =>
          simp only [missing, if_false, success, Bool.not_false, if_true]
          exact tellsFaults_throw_bind (Option.some_ne_none _).symm
      | true =>
          simp only [missing, if_false, success, Bool.not_true, Bool.false_eq_true]
          exact store_tellsFaults above url response

theorem fetch_tellsFaults {destination : Path} {pid : Nat}
    (above : (stagingPath destination pid).parent? = some place) (url : String) :
    (fetch pid url destination).TellsFaults := by
  unfold fetch
  apply tellsFaults_discard
  apply tellsFaults_bind (collect_tellsFaults above url)
  intro _
  apply tellsFaults_bind (tellsFaults_step rfl (Procedure.keeps_request trivial fun _ => rfl))
  intro _
  exact rfl

end Download
end JarLauncher
