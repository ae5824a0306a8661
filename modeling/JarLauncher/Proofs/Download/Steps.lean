import JarLauncher.Proofs.Download.Fetch

/-!
A download as a list of steps on files. Which steps there are follows from what the server has sent; they are taken
until one of them fails, and only if none does is the outcome the one that the response asks for.
-/

namespace JarLauncher

namespace Machine

def faultOf {Value : Type} : Except IoFault Value → Option IoFault
  | .error fault => some fault
  | .ok _ => none

/-- Why a step of a download has failed, if it has. -/
def Request.fault? : (request : Request) → request.Answer → Option IoFault
  | .createDirectories _, answer => faultOf answer
  | .createFile _, answer => faultOf answer
  | .append _ _, answer => faultOf answer
  | .flush _, answer => faultOf answer
  | .sync _, answer => faultOf answer
  | .size _, answer => faultOf answer
  | .replace _ _, answer => faultOf answer
  | _, _ => none

end Machine

namespace Download

open Machine

/-- A request on files, and the path that its fault is told of. -/
structure Step where
  path : Path
  request : Request

/-- Takes steps one after another, up to the first that fails. -/
def firstFault {World : Type} (answering : Answering World) : List Step → World → Option LauncherError × World
  | [], world => (none, world)
  | step :: steps, world =>
    match step.request.fault? (answering step.request world).1 with
    | some fault => (some (.fetchFilesystem step.path fault), (answering step.request world).2)
    | none => firstFault answering steps (answering step.request world).2

/-- The steps that write the body of a response to a hidden file. -/
def Response.writing (hidden : Path) (response : Response) : List Step :=
  (hidden.parent?.toList.map fun place => ⟨place, .createDirectories place⟩) ++
    ⟨hidden, .createFile hidden⟩ :: response.chunks.map fun chunk => ⟨hidden, .append hidden chunk⟩

/-- The steps that make sure of what was written, if the body has come to its end. -/
def Response.checking (hidden : Path) (response : Response) : List Step :=
  match response.bodyEnd with
  | .broken _ => []
  | .complete => [⟨hidden, .flush hidden⟩, ⟨hidden, .sync hidden⟩, ⟨hidden, .size hidden⟩]

/-- The steps that collect what a server sends. -/
def Transfer.collecting (hidden : Path) : Transfer → List Step
  | .failed _ => []
  | .response reply => if reply.isSuccess then reply.writing hidden ++ reply.checking hidden else []

/-- All steps of a download. Only a document is put in its place. -/
def Transfer.steps (url : String) (hidden destination : Path) (transfer : Transfer) : List Step :=
  transfer.collecting hidden ++
    match transfer.document url with
    | .ok _ => [⟨destination, .replace hidden destination⟩]
    | .error _ => []

section Walk

variable {World Value Result : Type} {answering : Answering World} {world start middle after : World}
  {steps others : List Step} {step : Step}

theorem firstFault_append (steps others : List Step) (world : World) :
    firstFault answering (steps ++ others) world =
      match firstFault answering steps world with
      | (some error, after) => (some error, after)
      | (none, after) => firstFault answering others after := by
  induction steps generalizing world with
  | nil => rfl
  | cons step steps ih =>
      simp only [List.cons_append, firstFault]
      cases step.request.fault? (answering step.request world).1 with
      | none => exact ih _
      | some fault => rfl

theorem firstFault_singleton_eq_none :
    firstFault answering [step] world = (none, after) ↔
      step.request.fault? (answering step.request world).1 = none ∧ after = (answering step.request world).2 := by
  cases told : step.request.fault? (answering step.request world).1 <;> simp [firstFault, told, eq_comm]

theorem firstFault_singleton_eq_some {error : LauncherError} :
    firstFault answering [step] world = (some error, after) ↔
      ∃ fault, step.request.fault? (answering step.request world).1 = some fault ∧
        error = .fetchFilesystem step.path fault ∧ after = (answering step.request world).2 := by
  cases told : step.request.fault? (answering step.request world).1 <;> simp [firstFault, told, eq_comm]

theorem firstFault_append_eq_none :
    firstFault answering (steps ++ others) world = (none, after) ↔
      ∃ middle, firstFault answering steps world = (none, middle) ∧
        firstFault answering others middle = (none, after) := by
  rw [firstFault_append]
  rcases firstFault answering steps world with ⟨_ | error, middle⟩ <;> simp

theorem firstFault_cons_eq_none :
    firstFault answering (step :: steps) world = (none, after) ↔
      ∃ middle, firstFault answering [step] world = (none, middle) ∧
        firstFault answering steps middle = (none, after) := by
  rw [← List.singleton_append, firstFault_append_eq_none]

/-- An attempt comes to `result` by these steps from `start` on, unless one of them fails: then it fails with the
first fault. -/
def Follows (answering : Answering World) (attempt : Attempt Value) (world : World) (steps : List Step)
    (start : World) (result : Except LauncherError Value) : Prop :=
  Attempt.outcome answering attempt world =
    match firstFault answering steps start with
    | (some error, after) => (.error error, after)
    | (none, after) => (result, after)

variable {attempt : Attempt Value} {next : Value → Attempt Result} {value : Value}

theorem follows_pure (value : Value) : Follows answering (pure value) world [] world (.ok value) := rfl

theorem follows_throw (error : LauncherError) :
    Follows answering (throw error : Attempt Value) world [] world (.error error) := rfl

theorem follows_bind {result : Except LauncherError Result}
    (first : Follows answering attempt world steps start (.ok value))
    (rest : ∀ middle, firstFault answering steps start = (none, middle) →
      Follows answering (next value) middle others middle result) :
    Follows answering (attempt >>= next) world (steps ++ others) start result := by
  unfold Follows at first ⊢
  rw [Attempt.outcome_bind, first, firstFault_append]
  rcases walked : firstFault answering steps start with ⟨_ | error, middle⟩
  · exact rest middle walked
  · rfl

theorem follows_bind_of_error {error : LauncherError}
    (first : Follows answering attempt world steps start (.error error)) :
    Follows answering (attempt >>= next) world steps start (.error error) := by
  unfold Follows at first ⊢
  rw [Attempt.outcome_bind, first]
  rcases firstFault answering steps start with ⟨_ | error, middle⟩ <;> rfl

/-- A request is one step, if its answer tells its fault. -/
theorem follows_step {request : Request} {asked : Procedure (Except IoFault Value)} (path : Path)
    (fault : request.fault? (answering request world).1 = faultOf (asked.run answering world).1)
    (moved : (answering request world).2 = (asked.run answering world).2)
    (good : ∀ found, (asked.run answering world).1 = .ok found → found = value) :
    Follows answering (faultAt path asked) world [⟨path, request⟩] world (.ok value) := by
  unfold Follows
  rw [Attempt.outcome_faultAt, firstFault, fault, moved]
  cases answered : (asked.run answering world).1 with
  | error fault => rfl
  | ok found =>
      rw [good found answered]
      rfl

theorem follows_change {request : Request} {asked : Procedure (Except IoFault Unit)} (path : Path)
    (fault : request.fault? (answering request world).1 = faultOf (asked.run answering world).1)
    (moved : (answering request world).2 = (asked.run answering world).2) :
    Follows answering (faultAt path asked) world [⟨path, request⟩] world (.ok ()) :=
  follows_step path fault moved fun _ _ => rfl

/-- A step that succeeds is followed by the others. -/
theorem follows_cons {path : Path} {request : Request} {asked : Procedure (Except IoFault Value)}
    {result : Except LauncherError Result}
    (first : Follows answering (faultAt path asked) world [⟨path, request⟩] world (.ok value))
    (rest : ∀ middle, firstFault answering [⟨path, request⟩] world = (none, middle) →
      Follows answering (next value) middle others middle result) :
    Follows answering (faultAt path asked >>= next) world (⟨path, request⟩ :: others) world result :=
  follows_bind first rest

theorem follows_chunks (hidden : Path) (chunks : List Bytes) :
    ∀ world, Follows answering (chunks.forM fun chunk => faultAt hidden (.request (.append hidden chunk))) world
      (chunks.map fun chunk => ⟨hidden, .append hidden chunk⟩) world (.ok ()) := by
  induction chunks with
  | nil =>
      intro world
      exact follows_pure ()
  | cons chunk chunks ih =>
      intro world
      exact follows_bind (follows_change hidden rfl rfl) fun middle _ => ih middle

end Walk

end Download
end JarLauncher
