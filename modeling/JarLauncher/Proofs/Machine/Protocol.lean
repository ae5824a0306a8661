import JarLauncher.Proofs.Machine.Outcome

/-!
Protocols: what a process may ask of the machine, given what it remembers of the answers so far. Whether a
procedure keeps to a protocol does not depend on the machine, so that it can be shown once and used for runs
beside any other processes.
-/

namespace JarLauncher.Machine

/-- What a process may ask, given what it remembers, and what it remembers after an answer. -/
structure Protocol (Memory : Type) where
  Allows : Memory → Request → Prop
  learn : Memory → (request : Request) → request.Answer → Memory

variable {Memory Value Result : Type} {protocol : Protocol Memory} {memory : Memory}

namespace Procedure

/-- Whether a procedure keeps to a protocol whatever the answers are, and ends as `ends` says. -/
def Keeps (protocol : Protocol Memory) (ends : Value → Memory → Prop) (memory : Memory) :
    Procedure Value → Prop
  | done value => ends value memory
  | ask request next =>
    protocol.Allows memory request ∧
      ∀ answer, Keeps protocol ends (protocol.learn memory request answer) (next answer)

variable {ends : Value → Memory → Prop}

theorem keeps_bind {procedure : Procedure Value} {next : Value → Procedure Result}
    {ends : Result → Memory → Prop}
    (kept : Keeps protocol (fun value after => Keeps protocol ends after (next value)) memory procedure) :
    Keeps protocol ends memory (procedure >>= next) := by
  induction procedure generalizing memory with
  | done value => exact kept
  | ask request rest ih => exact ⟨kept.1, fun answer => ih answer (kept.2 answer)⟩

theorem keeps_request {request : Request} {ends : request.Answer → Memory → Prop}
    (allowed : protocol.Allows memory request)
    (ended : ∀ answer, ends answer (protocol.learn memory request answer)) :
    Keeps protocol ends memory (.request request) :=
  ⟨allowed, ended⟩

theorem Keeps.mono {later : Value → Memory → Prop} {procedure : Procedure Value}
    (kept : Keeps protocol ends memory procedure) (weaker : ∀ value after, ends value after → later value after) :
    Keeps protocol later memory procedure := by
  induction procedure generalizing memory with
  | done value => exact weaker value memory kept
  | ask request rest ih => exact ⟨kept.1, fun answer => ih answer (kept.2 answer)⟩

/-- Where all that a protocol allows is allowed by another and teaches nothing there, what keeps to the first
keeps to the other. -/
theorem Keeps.unheeded {Other : Type} {other : Protocol Other} {still : Other} {procedure : Procedure Value}
    (kept : Keeps protocol ends memory procedure)
    (unheeded : ∀ memory request, protocol.Allows memory request →
      other.Allows still request ∧ ∀ answer, other.learn still request answer = still) :
    Keeps other (fun _ after => after = still) still procedure := by
  induction procedure generalizing memory with
  | done value => rfl
  | ask request next ih =>
      obtain ⟨allowed, same⟩ := unheeded memory request kept.1
      refine ⟨allowed, ?_⟩
      intro answer
      rw [same answer]
      exact ih answer (kept.2 answer)

/-- What no request that a protocol allows puts an end to still holds after a run that keeps to the protocol. -/
theorem Keeps.holds_run {World : Type} {answering : Answering World} {procedure : Procedure Value}
    (kept : Keeps protocol ends memory procedure) (Holds : World → Prop)
    (preserved : ∀ memory request world, protocol.Allows memory request → Holds world →
      Holds (answering request world).2) {world : World} (holds : Holds world) :
    Holds (procedure.run answering world).2 := by
  induction procedure generalizing memory world with
  | done value => exact holds
  | ask request next ih => exact ih _ (kept.2 _) (preserved memory request world kept.1 holds)

/-- What a process remembers at the end of a run. -/
def learned {World : Type} (protocol : Protocol Memory) (answering : Answering World) :
    Procedure Value → Memory → World → Memory
  | done _, memory, _ => memory
  | ask request next, memory, world =>
    let (answer, after) := answering request world
    (next answer).learned protocol answering (protocol.learn memory request answer) after

/-- What is shown for all answers holds of those that a machine gives. -/
theorem Keeps.ends_run {World : Type} {procedure : Procedure Value} (kept : Keeps protocol ends memory procedure)
    (answering : Answering World) (world : World) :
    ends (procedure.run answering world).1 (procedure.learned protocol answering memory world) := by
  induction procedure generalizing memory world with
  | done value => exact kept
  | ask request next ih => exact ih _ (kept.2 _) _

theorem Keeps.allows_of_mem_requests {World : Type} {procedure : Procedure Value}
    (kept : Keeps protocol ends memory procedure) (answering : Answering World) (world : World) :
    ∀ request ∈ procedure.requests answering world, ∃ known, protocol.Allows known request := by
  induction procedure generalizing memory world with
  | done value => exact nofun
  | ask asked next ih =>
      intro request member
      rcases List.mem_cons.mp member with rfl | later
      · exact ⟨memory, kept.1⟩
      · exact ih _ (kept.2 _) _ request later

end Procedure

namespace Attempt

variable {ends : Value → Memory → Prop} {fails : LauncherError → Memory → Prop} {attempt : Attempt Value}

/-- Whether an attempt keeps to a protocol, and succeeds or fails only as `ends` and `fails` say. -/
def Keeps (protocol : Protocol Memory) (ends : Value → Memory → Prop)
    (fails : LauncherError → Memory → Prop) (memory : Memory) (attempt : Attempt Value) : Prop :=
  Procedure.Keeps protocol
    (fun result after => match result with
      | .ok value => ends value after
      | .error error => fails error after) memory (ExceptT.run attempt)

theorem keeps_pure {value : Value} (ended : ends value memory) :
    Keeps protocol ends fails memory (pure value) := ended

theorem keeps_throw {error : LauncherError} (failed : fails error memory) :
    Keeps protocol ends fails memory (throw error : Attempt Value) := failed

theorem keeps_bind {next : Value → Attempt Result} {ends : Result → Memory → Prop}
    (kept : Keeps protocol (fun value after => Keeps protocol ends fails after (next value)) fails memory attempt) :
    Keeps protocol ends fails memory (attempt >>= next) := by
  unfold Keeps
  rw [run_bind]
  apply Procedure.keeps_bind
  apply Procedure.Keeps.mono kept
  intro result after held
  cases result with
  | ok value => exact held
  | error error => exact held

theorem keeps_tryCatch {handle : LauncherError → Attempt Value}
    (kept : Keeps protocol ends (fun error after => Keeps protocol ends fails after (handle error)) memory attempt) :
    Keeps protocol ends fails memory (tryCatch attempt handle) := by
  unfold Keeps
  rw [run_tryCatch]
  apply Procedure.keeps_bind
  apply Procedure.Keeps.mono kept
  intro result after held
  cases result with
  | ok value => exact held
  | error error => exact held

theorem keeps_lift {procedure : Procedure Value} (kept : procedure.Keeps protocol ends memory) :
    Keeps protocol ends fails memory (ExceptT.lift procedure) := by
  unfold Keeps
  rw [ExceptT.run_lift]
  exact Procedure.keeps_bind kept

theorem keeps_faultAt {path : Path} {step : Procedure (Except IoFault Value)}
    (kept : step.Keeps protocol (fun answer after => match answer with
      | .ok value => ends value after
      | .error fault => fails (.fetchFilesystem path fault) after) memory) :
    Keeps protocol ends fails memory (faultAt path step) := by
  apply Procedure.keeps_bind
  apply Procedure.Keeps.mono kept
  intro answer after held
  cases answer with
  | ok value => exact held
  | error fault => exact held

/-- A step of a download only has to be followed further where it has succeeded. -/
theorem keeps_step (failing : ∀ error after, fails error after) {path : Path}
    {step : Procedure (Except IoFault Value)} {next : Value → Attempt Result} {ends : Result → Memory → Prop}
    (kept : step.Keeps protocol (fun answer after => ∀ value, answer = .ok value →
      Keeps protocol ends fails after (next value)) memory) :
    Keeps protocol ends fails memory (faultAt path step >>= next) := by
  apply keeps_bind
  apply keeps_faultAt
  apply Procedure.Keeps.mono kept
  intro answer after held
  cases answer with
  | ok value => exact held value rfl
  | error fault => exact failing _ after

theorem Keeps.mono {later : Value → Memory → Prop} {worse : LauncherError → Memory → Prop}
    (kept : Keeps protocol ends fails memory attempt)
    (weaker : ∀ value after, ends value after → later value after)
    (milder : ∀ error after, fails error after → worse error after) :
    Keeps protocol later worse memory attempt := by
  apply Procedure.Keeps.mono kept
  intro result after held
  cases result with
  | ok value => exact weaker value after held
  | error error => exact milder error after held

end Attempt

/-- The protocol of what makes certain requests only. -/
def onlyProtocol (allowed : Request → Bool) : Protocol Unit where
  Allows _ request := allowed request = true
  learn _ _ _ := ()

variable {allowed : Request → Bool}

namespace Procedure

variable {ends : Value → Memory → Prop}

/-- Whether a procedure makes certain requests only, whatever the answers are. -/
def Only (allowed : Request → Bool) (procedure : Procedure Value) : Prop :=
  procedure.Keeps (onlyProtocol allowed) (fun _ _ => True) ()

theorem only_bind {procedure : Procedure Value} {next : Value → Procedure Result}
    (first : procedure.Only allowed) (rest : ∀ value, (next value).Only allowed) :
    (procedure >>= next).Only allowed := by
  apply keeps_bind
  apply Keeps.mono first
  intro value _ _
  exact rest value

theorem only_request {request : Request} (isAllowed : allowed request = true) :
    (Procedure.request request).Only allowed :=
  ⟨isAllowed, fun _ => trivial⟩

/-- What keeps to a protocol makes only the requests that the protocol allows at some time. -/
theorem Keeps.only {procedure : Procedure Value} (kept : Keeps protocol ends memory procedure)
    (allows : ∀ known request, protocol.Allows known request → allowed request = true) : procedure.Only allowed := by
  have unheeded : Keeps (onlyProtocol allowed) (fun _ after => after = ()) () procedure :=
    kept.unheeded fun known request isAllowed => ⟨allows known request isAllowed, fun _ => rfl⟩
  exact unheeded.mono fun _ _ _ => trivial

theorem Only.mono {more : Request → Bool} {procedure : Procedure Value} (only : procedure.Only allowed)
    (wider : ∀ request, allowed request = true → more request = true) : procedure.Only more :=
  Keeps.only only fun _ => wider

theorem Only.allowed_of_mem_requests {World : Type} {procedure : Procedure Value} (only : procedure.Only allowed)
    (answering : Answering World) (world : World) :
    ∀ request ∈ procedure.requests answering world, allowed request = true := by
  intro request member
  obtain ⟨_, isAllowed⟩ := only.allows_of_mem_requests answering world request member
  exact isAllowed

/-- What makes only requests that leave the machine as it is leaves it as it is. -/
theorem Only.run_unchanged {World : Type} {answering : Answering World} {procedure : Procedure Value}
    (only : procedure.Only allowed)
    (unchanged : ∀ request world, allowed request = true → (answering request world).2 = world) (world : World) :
    (procedure.run answering world).2 = world := by
  apply Keeps.holds_run only (fun after => after = world) _ rfl
  intro _ request _ isAllowed same
  exact (unchanged request _ isAllowed).trans same

end Procedure

namespace Attempt

def Only (allowed : Request → Bool) (attempt : Attempt Value) : Prop :=
  (ExceptT.run attempt).Only allowed

theorem only_done (result : Except LauncherError Value) :
    Attempt.Only allowed (ExceptT.mk (.done result)) := trivial

theorem only_bind {attempt : Attempt Value} {next : Value → Attempt Result} (first : attempt.Only allowed)
    (rest : ∀ value, (next value).Only allowed) : (attempt >>= next).Only allowed := by
  unfold Only
  rw [run_bind]
  apply Procedure.only_bind first
  intro result
  cases result with
  | ok value => exact rest value
  | error error => exact trivial

theorem only_lift {procedure : Procedure Value} (only : procedure.Only allowed) :
    Attempt.Only allowed (ExceptT.lift procedure) := by
  unfold Only
  rw [ExceptT.run_lift]
  exact Procedure.only_bind only fun _ => trivial

end Attempt
end JarLauncher.Machine
