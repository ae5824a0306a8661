import JarLauncher.Path
import JarLauncher.Supervision.Status

/-!
The supervisor's view of its one child, as a machine without effects:
`starting → running → exitedWithCode | exitedWithSignal | launchFailed`. It consumes events and answers
with the commands to carry out.
-/

namespace JarLauncher.Supervision

/-- The signals that are handed to the child unchanged. -/
inductive ForwardedSignal
  | interrupt
  | terminate
  deriving DecidableEq, Repr

namespace ForwardedSignal

def number : ForwardedSignal → Int32
  | interrupt => 2
  | terminate => 15

def name : ForwardedSignal → String
  | interrupt => "SIGINT"
  | terminate => "SIGTERM"

end ForwardedSignal

inductive State
  | starting
  | running (pid : Option Nat)
  | exitedWithCode (code : Int32)
  | exitedWithSignal (signal : Int32)
  | launchFailed (notFound : Bool) (message : String)
  deriving DecidableEq, Repr

/-- Whether nothing more can happen. -/
def State.isTerminal : State → Bool
  | starting | running _ => false
  | exitedWithCode _ | exitedWithSignal _ | launchFailed _ _ => true

inductive Event
  | launched (pid : Option Nat)
  | launchFailed (notFound : Bool) (message : String)
  | signalReceived (signal : ForwardedSignal)
  | childExited (status : ChildStatus)
  deriving DecidableEq, Repr

inductive Command
  | forward (signal : ForwardedSignal)
  deriving DecidableEq, Repr

structure SupervisedProcess where
  pid : Option Nat := none
  args : List Bytes := []
  exitCode : Option Int32 := none
  terminatingSignal : Option Int32 := none
  deriving DecidableEq, Repr

/-- The supervisor's state, with the signals handed to the child so far in order. -/
structure Core where
  state : State
  process : SupervisedProcess
  forwarded : List ForwardedSignal
  deriving DecidableEq, Repr

/-- The state after the end of a child: a signal counts before a code, and neither means code zero. -/
def exitState (status : ChildStatus) : State :=
  match status.signal, status.code with
  | some signal, _ => .exitedWithSignal signal
  | none, some code => .exitedWithCode code
  | none, none => .exitedWithCode 0

namespace Core

/-- The supervisor of a child that is about to be launched with `args`. -/
def start (args : List Bytes) : Core where
  state := .starting
  process := { args }
  forwarded := []

/-- The effect of one event; events that make no sense in the present state change nothing. -/
def step (core : Core) (event : Event) : Core × List Command :=
  match core.state, event with
  | .starting, .launched pid =>
    ({ core with state := .running pid, process := { core.process with pid } }, [])
  | .starting, .launchFailed notFound message =>
    ({ core with state := .launchFailed notFound message }, [])
  | .running _, .signalReceived signal =>
    ({ core with forwarded := core.forwarded ++ [signal] }, [.forward signal])
  | .running _, .childExited status =>
    ({ core with
        state := exitState status
        process := { core.process with exitCode := status.code, terminatingSignal := status.signal } },
      [])
  | _, _ => (core, [])

/-- The effect of events one after another, with all the commands they led to. -/
def steps (core : Core) : List Event → Core × List Command
  | [] => (core, [])
  | event :: events =>
    let (next, commands) := core.step event
    let (last, others) := next.steps events
    (last, commands ++ others)

/-- Events one after another are the first of them and then the others. -/
theorem steps_append (core : Core) (events others : List Event) :
    core.steps (events ++ others) =
      let (next, commands) := core.steps events
      let (last, more) := next.steps others
      (last, commands ++ more) := by
  induction events generalizing core with
  | nil => rfl
  | cons event events ih => simp [steps, ih, List.append_assoc]

/-- After the end nothing changes any more. -/
theorem step_of_isTerminal {core : Core} (ended : core.state.isTerminal = true) (event : Event) :
    core.step event = (core, []) := by
  unfold step
  cases state : core.state <;> simp_all [State.isTerminal]

/-- How the launcher has to end, once the child is gone. -/
def termination? (core : Core) : Option Termination :=
  match core.state with
  | .exitedWithCode code => some (.code code)
  | .exitedWithSignal signal => some (.signal signal)
  | _ => none

/-- The end of a running child decides how the launcher has to end. -/
theorem termination?_childExited {core : Core} {pid : Option Nat} (running : core.state = .running pid)
    (status : ChildStatus) :
    (core.step (.childExited status)).1.termination? = some (Termination.ofStatus status) := by
  obtain ⟨code, signal⟩ := status
  simp only [step, running]
  cases signal <;> cases code <;> rfl

end Core
end JarLauncher.Supervision
