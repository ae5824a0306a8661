import JarLauncher.Machine.Request

/-!
Procedures: what to do as a tree of requests to the machine, each with what follows from its answer. The
same procedure can be run to its end on one machine or, request by request, beside others.
-/

namespace JarLauncher.Machine

inductive Procedure (Value : Type)
  | done (value : Value)
  | ask (request : Request) (next : request.Answer → Procedure Value)

/-- How a machine in some state answers a request, and its state after that. -/
abbrev Answering (World : Type) :=
  (request : Request) → World → request.Answer × World

namespace Procedure

variable {Value Result World : Type}

/-- A procedure followed by what depends on its value. -/
def andThen (procedure : Procedure Value) (next : Value → Procedure Result) : Procedure Result :=
  match procedure with
  | done value => next value
  | ask request rest => ask request fun answer => (rest answer).andThen next

instance : Monad Procedure where
  pure := done
  bind := andThen

def request (request : Request) : Procedure request.Answer :=
  ask request done

def run (answering : Answering World) : Procedure Value → World → Value × World
  | done value, world => (value, world)
  | ask request next, world =>
    let (answer, after) := answering request world
    (next answer).run answering after

/-- Runs a procedure to its end, with answers that have effects of their own. -/
def perform {Effect : Type → Type} [Monad Effect] (answering : (request : Request) → Effect request.Answer) :
    Procedure Value → Effect Value
  | done value => pure value
  | ask request next => do (next (← answering request)).perform answering

/-- The requests that a run makes, in order. -/
def requests (answering : Answering World) : Procedure Value → World → List Request
  | done _, _ => []
  | ask request next, world =>
    let (answer, after) := answering request world
    request :: (next answer).requests answering after

@[simp] theorem run_pure (answering : Answering World) (value : Value) (world : World) :
    (pure value : Procedure Value).run answering world = (value, world) := rfl

@[simp] theorem run_bind (answering : Answering World) (procedure : Procedure Value)
    (next : Value → Procedure Result) (world : World) :
    (procedure >>= next).run answering world =
      let (value, after) := procedure.run answering world
      (next value).run answering after := by
  induction procedure generalizing world with
  | done value => rfl
  | ask request rest ih => exact ih _ _

@[simp] theorem run_request (answering : Answering World) (asked : Request) (world : World) :
    (request asked).run answering world = answering asked world := rfl

end Procedure

abbrev Attempt (Value : Type) := ExceptT LauncherError Procedure Value

/-- A request whose fault is a fault of the download at a path. -/
def faultAt {Value : Type} (path : Path) (step : Procedure (Except IoFault Value)) : Attempt Value :=
  ExceptT.mk do return (← step).mapError (.fetchFilesystem path)

end JarLauncher.Machine
