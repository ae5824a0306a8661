import JarLauncher.Proofs.Files.Computer
import JarLauncher.Proofs.Machine.Protocol
import Mathlib.Logic.Relation

/-!
Processes that share files. Any of them may be answered next, any request may fail with a part of its effect
or none, and any process may stop for good, also in the middle of a request.
-/

namespace JarLauncher.Machine

open Files

def Request.succeeded : (request : Request) → request.Answer → Bool
  | .isFile _, _ | .get _, _ | .say _, _ => true
  | .readText _, answer => answer.isOk
  | .openFile _, answer => answer.isOk
  | .writeFile _ _, answer => answer.isOk
  | .renameFile _ _, answer => answer.isOk
  | .removeFile _, answer => answer.isOk
  | .createDirectories _, answer => answer.isOk
  | .createFile _, answer => answer.isOk
  | .append _ _, answer => answer.isOk
  | .flush _, answer => answer.isOk
  | .sync _, answer => answer.isOk
  | .size _, answer => answer.isOk
  | .replace _ _, answer => answer.isOk
  | .discard _, answer => answer.isOk
  | .readSettings _, answer => answer.isOk
  | .askVersion _, answer => answer.isOk
  | .supervise _ _, answer => answer.isOk

/-- Whether an answer tells nothing untrue of the files. -/
def Request.Truthful (files : MemoryFiles) : (request : Request) → request.Answer → Prop
  | .isFile path, found => found = true → files.isFile path = true
  | .readText path, answer =>
    ∀ text, answer = .ok text →
      ∃ contents, files.contents? path = some contents ∧ Utf8.decode contents = .ok text
  | .openFile path, answer => ∀ contents, answer = .ok contents → files.contents? path = some contents
  | .size path, answer =>
    ∀ size, answer = .ok size → ∃ contents, files.contents? path = some contents ∧ contents.length = size
  | _, _ => True

/-- What a request may leave behind that fails, or whose process stops meanwhile. -/
inductive Partly (files : MemoryFiles) : Request → MemoryFiles → Prop
  | nothing (request : Request) : Partly files request files
  | prepared (path : Path) (contents : Bytes) (count : Nat) :
      Partly files (.writeFile path contents) (files.addDirectories (path.components.dropLast.take count))
  | written (path : Path) (contents : Bytes) (count : Nat)
      (clear : files.obstacle? (.writeFile path contents) = none) :
      Partly files (.writeFile path contents) (files.addFile path (contents.take count))
  | made (path : Path) (count : Nat) :
      Partly files (.createDirectories path) (files.addDirectories (path.components.take count))
  | created (path : Path) (clear : files.obstacle? (.createFile path) = none) :
      Partly files (.createFile path) (files.put path (some (.file [])))
  | appended (path : Path) (chunk : Bytes) (count : Nat)
      (clear : files.obstacle? (.append path chunk) = none) :
      Partly files (.append path chunk) (files.after (.append path (chunk.take count)))

/-- Whether a request may leave a part of its effect behind. -/
def Request.divisible : Request → Bool
  | .writeFile _ _ | .createDirectories _ | .createFile _ | .append _ _ => true
  | _ => false

/-- Whether a request may get an answer, and what files it leaves behind then. -/
structure Responds (files : MemoryFiles) (request : Request) (answer : request.Answer)
    (after : MemoryFiles) : Prop where
  truthful : request.Truthful files answer
  done : request.succeeded answer = true → files.obstacle? request = none ∧ after = files.after request
  failed : request.succeeded answer = false → Partly files request after

/-- A request that a process has made, and the answer that it got. -/
structure Exchange where
  process : Nat
  request : Request
  answer : request.Answer

/-- Processes by their numbers, the files that they share, and all exchanges so far, the latest first. -/
structure Pool (Value : Type) where
  files : MemoryFiles
  processes : Nat → Option (Procedure Value)
  log : List Exchange := []

namespace Pool

variable {Value : Type}

/-- One step of one process: it gets an answer, its write is seen by others before it is done, or it stops for
good. -/
inductive Step (pool : Pool Value) : Pool Value → Prop
  | answered (process : Nat) (request : Request) (next : request.Answer → Procedure Value)
      (answer : request.Answer) (after : MemoryFiles)
      (waiting : pool.processes process = some (.ask request next))
      (responds : Responds pool.files request answer after) :
      Step pool
        { files := after
          processes := Function.update pool.processes process (some (next answer))
          log := ⟨process, request, answer⟩ :: pool.log }
  | underway (process : Nat) (path : Path) (contents : Bytes)
      (next : Except Report Unit → Procedure Value) (after : MemoryFiles)
      (waiting : pool.processes process = some (.ask (.writeFile path contents) next))
      (partly : Partly pool.files (.writeFile path contents) after) :
      Step pool { pool with files := after }
  | stopped (process : Nat) (request : Request) (next : request.Answer → Procedure Value) (after : MemoryFiles)
      (waiting : pool.processes process = some (.ask request next))
      (partly : Partly pool.files request after) :
      Step pool
        { files := after, processes := Function.update pool.processes process none, log := pool.log }

abbrev Reaches (pool after : Pool Value) : Prop :=
  Relation.ReflTransGen Step pool after

variable {pool after : Pool Value}

/-- No exchange is forgotten. -/
theorem Step.log_suffix (step : pool.Step after) : pool.log <:+ after.log := by
  cases step with
  | answered process request next answer files waiting responds => exact List.suffix_cons _ _
  | underway process path contents next left waiting partly => exact List.suffix_rfl
  | stopped process request next left waiting partly => exact List.suffix_rfl

theorem Reaches.log_suffix (reached : pool.Reaches after) : pool.log <:+ after.log := by
  induction reached with
  | refl => exact List.suffix_rfl
  | tail _ step ih => exact ih.trans step.log_suffix

end Pool

variable {request : Request} {answer : request.Answer} {files : MemoryFiles} {computer : Computer}

theorem Responds.looking (truthful : request.Truthful files answer) (clear : files.obstacle? request = none)
    (same : files.after request = files) : Responds files request answer files where
  truthful := truthful
  done _ := ⟨clear, same.symm⟩
  failed _ := .nothing request

theorem Partly.eq_of_indivisible {after : MemoryFiles} (partly : Partly files request after)
    (whole : request.divisible = false) : after = files := by
  cases partly with
  | nothing => rfl
  | _ => cases whole

/-- A directory is not changed by being made. -/
theorem Partly.inside_of_made {directory path : Path} {after : MemoryFiles}
    (same : path.components = directory.components) (partly : Partly files (.createDirectories path) after) :
    after.inside directory = files.inside directory := by
  cases partly with
  | nothing => rfl
  | made path count =>
      apply MemoryFiles.inside_addDirectories
      rw [same]
      exact List.length_take_le' ..

/-- Where neither success nor failure has an effect, everything stays as it is. -/
theorem Responds.same {after : MemoryFiles} (responds : Responds files request answer after)
    (idle : files.after request = files) (whole : request.divisible = false) : after = files := by
  cases success : request.succeeded answer with
  | false => exact (responds.failed success).eq_of_indivisible whole
  | true => rw [(responds.done success).2, idle]

theorem Responds.same_of_failed {after : MemoryFiles} (responds : Responds files request answer after)
    (failed : request.succeeded answer = false) (whole : request.divisible = false) : after = files :=
  (responds.failed failed).eq_of_indivisible whole

/-- Nothing that is left of a request changes who may read what. -/
theorem Partly.unreadable {after : MemoryFiles} (partly : Partly files request after) :
    after.unreadable = files.unreadable := by
  cases partly with
  | nothing => rfl
  | _ => rfl

theorem Responds.unreadable {after : MemoryFiles} (responds : Responds files request answer after) :
    after.unreadable = files.unreadable := by
  cases success : request.succeeded answer with
  | false => exact (responds.failed success).unreadable
  | true => rw [(responds.done success).2, MemoryFiles.unreadable_after]

theorem Pool.Step.unreadable {Value : Type} {pool after : Pool Value} (step : pool.Step after) :
    after.files.unreadable = pool.files.unreadable := by
  cases step with
  | answered process request next answer files waiting responds => exact responds.unreadable
  | underway process path contents next left waiting partly => exact partly.unreadable
  | stopped process request next left waiting partly => exact partly.unreadable

theorem Responds.changing (truthful : request.Truthful computer.files answer)
    (told : request.succeeded answer = (computer.changed request).1.isOk) :
    Responds computer.files request answer (computer.changed request).2.files where
  truthful := truthful
  done succeeded := by
    rw [told] at succeeded
    cases obstacle : computer.files.obstacle? request with
    | none =>
        rw [Computer.changed_of_clear obstacle]
        exact ⟨rfl, rfl⟩
    | some fault =>
        rw [Computer.changed_of_blocked obstacle] at succeeded
        cases succeeded
  failed broken := by
    rw [told] at broken
    cases obstacle : computer.files.obstacle? request with
    | none =>
        rw [Computer.changed_of_clear obstacle] at broken
        cases broken
    | some fault =>
        rw [Computer.changed_of_blocked obstacle]
        exact .nothing request

theorem isOk_reported (computer : Computer) (request : Request) :
    (computer.reported request).1.isOk = (computer.changed request).1.isOk := by
  unfold Computer.reported
  cases (computer.changed request).1 <;> rfl

/-- What a computer answers, a pool may answer. -/
theorem responds_answer (serve : String → Download.Transfer) (computer : Computer) (request : Request) :
    Responds computer.files request (Computer.answer serve request computer).1
      (Computer.answer serve request computer).2.files := by
  cases request with
  | isFile path => exact .looking (fun found => found) rfl rfl
  | readText path =>
      refine .looking ?_ rfl rfl
      intro text found
      obtain ⟨contents, read, decoded⟩ := MemoryFiles.readText_eq_ok.mp found
      exact ⟨contents, MemoryFiles.contents?_of_read read, decoded⟩
  | openFile path =>
      refine .looking ?_ rfl rfl
      intro contents found
      exact MemoryFiles.contents?_of_read found
  | size path =>
      refine .looking ?_ rfl rfl
      intro size told
      cases found : computer.files.contents? path with
      | none => simp [Computer.answer, found] at told
      | some contents =>
          simp only [Computer.answer, found, Except.ok.injEq] at told
          exact ⟨contents, rfl, told⟩
  | writeFile path contents => exact .changing trivial (isOk_reported computer _)
  | renameFile source target => exact .changing trivial (isOk_reported computer _)
  | removeFile path => exact .changing trivial (isOk_reported computer _)
  | createDirectories path => exact .changing trivial rfl
  | createFile path => exact .changing trivial rfl
  | append path chunk => exact .changing trivial rfl
  | replace source target => exact .changing trivial rfl
  | discard path => exact .changing trivial rfl
  | _ => exact .looking trivial rfl rfl

/-- Whether all documents in the exchanges are those that servers have. -/
def Served (serve : String → Download.Transfer) (log : List Exchange) : Prop :=
  ∀ pid url transfer, ⟨pid, .get url, transfer⟩ ∈ log → transfer = serve url

theorem Served.append {serve : String → Download.Transfer} {log later : List Exchange} (served : Served serve log)
    (more : Served serve later) : Served serve (later ++ log) := by
  intro pid url transfer member
  rcases List.mem_append.mp member with new | old
  · exact more pid url transfer new
  · exact served pid url transfer old

theorem Procedure.bind_done {Value : Type} (procedure : Procedure Value) :
    (procedure >>= Procedure.done) = procedure := by
  induction procedure with
  | done value => rfl
  | ask request next ih =>
      change Procedure.ask request (fun answer => next answer >>= Procedure.done) = _
      rw [funext ih]

namespace Pool

variable {Value Part : Type} {serve : String → Download.Transfer} {pool : Pool Value} {process : Nat}

/-- A process may be answered, as a computer would, until it has done a part of its work, while all others
wait. -/
theorem reaches_run (serve : String → Download.Transfer) (first : Procedure Part) (rest : Part → Procedure Value)
    (waiting : pool.processes process = some (first >>= rest)) (computer : Computer)
    (same : pool.files = computer.files) :
    ∃ log, Served serve log ∧
      pool.Reaches
        { files := (first.run (Computer.answer serve) computer).2.files
          processes := Function.update pool.processes process
            (some (rest (first.run (Computer.answer serve) computer).1))
          log := log ++ pool.log } := by
  induction first generalizing pool computer with
  | done value =>
      refine ⟨[], nofun, ?_⟩
      have kept : Function.update pool.processes process (some (rest value)) = pool.processes :=
        Function.update_eq_self_iff.mpr waiting.symm
      change pool.Reaches ⟨computer.files, Function.update pool.processes process (some (rest value)), pool.log⟩
      rw [kept, ← same]
  | ask request next ih =>
      have responds := responds_answer serve computer request
      rw [← same] at responds
      have step := Step.answered process request _ _ _ waiting responds
      generalize moved : (⟨(Computer.answer serve request computer).2.files, _, _⟩ : Pool Value) = later at step
      have continuing : later.processes process =
          some (next (Computer.answer serve request computer).1 >>= rest) := by
        rw [← moved]
        exact Function.update_self _ _ _
      have there : later.files = (Computer.answer serve request computer).2.files := by rw [← moved]
      obtain ⟨log, served, reached⟩ := ih _ continuing _ there
      subst moved
      refine ⟨log ++ [⟨process, request, (Computer.answer serve request computer).1⟩], ?_, ?_⟩
      · intro pid url transfer member
        rcases List.mem_append.mp member with later | now
        · exact served pid url transfer later
        · cases List.mem_singleton.mp now
          rfl
      · rw [Function.update_idem] at reached
        have whole := Relation.ReflTransGen.head step reached
        rw [List.append_assoc]
        exact whole

/-- The same for the first part of an attempt, if a computer succeeds in it. -/
theorem reaches_attempt {pool : Pool (Except LauncherError Value)} {attempt : Attempt Part}
    {next : Part → Attempt Value} {computer after : Computer} {value : Part}
    (waiting : pool.processes process = some (ExceptT.run (attempt >>= next)))
    (same : pool.files = computer.files) (served : Served serve pool.log)
    (done : Attempt.outcome (Computer.answer serve) attempt computer = (.ok value, after)) :
    ∃ later : Pool (Except LauncherError Value), pool.Reaches later ∧ Served serve later.log ∧
      later.files = after.files ∧
      later.processes = Function.update pool.processes process (some (ExceptT.run (next value))) := by
  rw [Attempt.run_bind] at waiting
  obtain ⟨log, more, reached⟩ := reaches_run serve _ _ waiting computer same
  change (ExceptT.run attempt).run _ computer = _ at done
  rw [done] at reached
  exact ⟨_, reached, served.append more, rfl, rfl⟩

/-- An attempt may be made as a computer would make it, while all others wait. -/
theorem reaches_whole_attempt {pool : Pool (Except LauncherError Value)} {attempt : Attempt Value}
    {computer after : Computer} {value : Value}
    (waiting : pool.processes process = some (ExceptT.run attempt)) (same : pool.files = computer.files)
    (served : Served serve pool.log)
    (done : Attempt.outcome (Computer.answer serve) attempt computer = (.ok value, after)) :
    ∃ later : Pool (Except LauncherError Value), pool.Reaches later ∧ Served serve later.log ∧
      later.files = after.files ∧
      later.processes = Function.update pool.processes process (some (.done (.ok value))) := by
  have parted : ExceptT.run (attempt >>= fun value => (pure value : Attempt Value)) = ExceptT.run attempt := by
    calc
      _ = ExceptT.run attempt >>= _ := Attempt.run_bind attempt _
      _ = ExceptT.run attempt >>= Procedure.done := by
          congr 1
          funext result
          cases result <;> rfl
      _ = ExceptT.run attempt := Procedure.bind_done _
  rw [← parted] at waiting
  obtain ⟨later, whole⟩ := reaches_attempt waiting same served done
  exact ⟨later, whole⟩

end Pool
end JarLauncher.Machine
