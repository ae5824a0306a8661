import JarLauncher.Error
import JarLauncher.Supervision.Core

/-!
The supervisor at work: it launches a child, waits for the child's end or for a signal, and carries out what
the core asks for. All it meets comes from its `Surroundings`.
-/

namespace JarLauncher.Supervision

inductive Occurrence
  | received (signal : ForwardedSignal)
  /-- No signal will come any more. -/
  | sourceClosed
  | exited (status : ChildStatus)
  | waitFailed (fault : IoFault)
  deriving DecidableEq, Repr

/-- Whether the supervision goes on after an occurrence. -/
def Occurrence.isPassing : Occurrence → Bool
  | received _ | sourceClosed => true
  | exited _ | waitFailed _ => false

/-- Where a supervisor runs: how children are launched, what happens next, and how signals are sent. Only
finitely many signals come before the wait for the child ends, which `remaining` bounds. -/
structure Surroundings (World : Type) where
  /-- Launches a program and gives the child's number, if it has one. -/
  launch : Bytes → List Bytes → World → Except IoFault (Option Nat) × World
  /-- The next occurrence; `listening` says whether the source of signals is still asked. -/
  next : (listening : Bool) → World → Occurrence × World
  send : ForwardedSignal → World → Except IoFault Unit × World
  /-- A bound on the signals that can still come. -/
  remaining : World → Nat
  next_lt : ∀ listening world, (next listening world).1.isPassing = true →
    remaining (next listening world).2 < remaining world
  send_le : ∀ signal world, remaining (send signal world).2 ≤ remaining world

variable {World : Type}

/-- Carries out commands; a signal that cannot be delivered is dropped, for the child's end decides. -/
def perform (surroundings : Surroundings World) (commands : List Command) (world : World) : World :=
  commands.foldl (fun world (.forward signal) => (surroundings.send signal world).2) world

theorem perform_remaining_le (surroundings : Surroundings World) (commands : List Command)
    (world : World) :
    surroundings.remaining (perform surroundings commands world) ≤ surroundings.remaining world := by
  induction commands generalizing world with
  | nil => exact Nat.le_refl _
  | cons command rest ih =>
    cases command with
    | forward signal =>
      exact Nat.le_trans (ih (surroundings.send signal world).2) (surroundings.send_le signal world)

def conclude (core : Core) : Except LauncherError (Termination × Core) :=
  match core.termination? with
  | some termination => .ok (termination, core)
  | none => .error (.other (.ofMessage "supervisor finished in a non-terminal state"))

/-- Waits until the child has ended, forwarding every signal that comes before. -/
def watch (surroundings : Surroundings World) (core : Core) (listening : Bool) (world : World) :
    Except LauncherError (Termination × Core) × World :=
  match _happened : surroundings.next listening world with
  | (.exited status, after) => (conclude (core.step (.childExited status)).1, after)
  | (.waitFailed fault, after) => (.error (.io fault), after)
  | (.sourceClosed, after) => watch surroundings core false after
  | (.received signal, after) =>
    let (next, commands) := core.step (.signalReceived signal)
    watch surroundings next listening (perform surroundings commands after)
  termination_by surroundings.remaining world
  decreasing_by
    · have passing := surroundings.next_lt listening world
      rw [_happened] at passing
      exact passing rfl
    · have passing := surroundings.next_lt listening world
      rw [_happened] at passing
      exact Nat.lt_of_le_of_lt (perform_remaining_le surroundings _ _) (passing rfl)

/-- Launches a program and stays with it until it has ended; also gives the final state of the core. -/
def superviseWithCore (surroundings : Surroundings World) (program : Bytes) (args : List Bytes)
    (world : World) : Except LauncherError (Termination × Core) × World :=
  match surroundings.launch program args world with
  | (.error fault, after) =>
    (.error (.launchFailed (Utf8.decodeLossy program) none fault), after)
  | (.ok pid, after) =>
    watch surroundings ((Core.start args).step (.launched pid)).1 true after

def supervise (surroundings : Surroundings World) (program : Bytes) (args : List Bytes)
    (world : World) : Except LauncherError Termination × World :=
  let (result, after) := superviseWithCore surroundings program args world
  (result.map Prod.fst, after)

/-- Supervises a program, and then ends the launcher as its child has ended. There is no ending if no child
was launched or the wait for it failed. -/
def run (surroundings : Surroundings World) (program : Bytes) (args : List Bytes)
    (world : World) : Except LauncherError Ending × World :=
  let (result, after) := supervise surroundings program args world
  (result.map Termination.ending, after)

end JarLauncher.Supervision
