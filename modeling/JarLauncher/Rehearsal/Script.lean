import JarLauncher.Supervision.Watch

/-!
Scripted surroundings for the supervisor: what happens is written down beforehand, the child reacts to
signals as the script says, and all that the supervisor does is recorded.
-/

namespace JarLauncher.Rehearsal

open Supervision

/-- What a child does when it gets a signal. -/
inductive Reaction
  | ignore
  /-- It dies of the signal at once. -/
  | die
  /-- It ends in its own way at once. -/
  | exit (status : ChildStatus)
  /-- The signal cannot be delivered. -/
  | fail (fault : IoFault)
  deriving DecidableEq, Repr

/-- What a supervisor was seen to do or to learn. -/
inductive Record
  | launched (program : Bytes) (args : List Bytes)
  | received (signal : ForwardedSignal)
  | closed
  | sent (signal : ForwardedSignal)
  | exited (status : ChildStatus)
  deriving DecidableEq, Repr

/-- A script, as far as it has been played. -/
structure Script where
  coming : List Occurrence
  /-- How the child reacts to one signal after another; the last reaction stays. -/
  reactions : List Reaction := []
  /-- Why no child can be launched, if none can. -/
  launchFault : Option IoFault := none
  pid : Option Nat := none
  /-- Whether the source of signals has closed. -/
  closed : Bool := false
  trace : List Record := []

namespace Script

/-- The fault of waiting for a child when nothing is left to happen. -/
def exhausted : IoFault :=
  .worded .other "script exhausted"

def note (script : Script) (records : List Record) : Script :=
  { script with trace := script.trace ++ records }

def seen : Occurrence → List Record
  | .received signal => [.received signal]
  | .sourceClosed => [.closed]
  | .exited status => [.exited status]
  | .waitFailed _ => []

def launch (program : Bytes) (args : List Bytes) (script : Script) :
    Except IoFault (Option Nat) × Script :=
  let after := script.note [.launched program args]
  match script.launchFault with
  | some fault => (.error fault, after)
  | none => (.ok script.pid, after)

/-- What can still happen; a source that nobody asks or that has closed yields nothing. -/
def audible (listening : Bool) (script : Script) : List Occurrence :=
  if script.closed || !listening then script.coming.dropWhile (·.isPassing) else script.coming

def next (listening : Bool) (script : Script) : Occurrence × Script :=
  match script.audible listening with
  | [] => (.waitFailed exhausted, { script with coming := [] })
  | occurrence :: rest =>
    (occurrence,
      { script.note (seen occurrence) with
        coming := rest, closed := script.closed || occurrence = .sourceClosed })

/-- What the child does on the next signal, and what it does on those after that. -/
def react : List Reaction → Reaction × List Reaction
  | [] => (.ignore, [])
  | [last] => (last, [last])
  | reaction :: rest => (reaction, rest)

def send (signal : ForwardedSignal) (script : Script) : Except IoFault Unit × Script :=
  let (reaction, reactions) := react script.reactions
  let after := { script.note [.sent signal] with reactions }
  match reaction with
  | .ignore => (.ok (), after)
  | .die => (.ok (), { after with coming := .exited (.signaled signal.number) :: after.coming })
  | .exit status => (.ok (), { after with coming := .exited status :: after.coming })
  | .fail fault => (.error fault, after)

/-- How many signals can still come, the end of them included. -/
def remaining (script : Script) : Nat :=
  script.coming.countP (·.isPassing)

theorem remaining_next_lt (listening : Bool) (script : Script)
    (passing : (next listening script).1.isPassing = true) :
    remaining (next listening script).2 < remaining script := by
  unfold next at passing ⊢
  match heard : script.audible listening with
  | [] =>
    rw [heard] at passing
    cases passing
  | occurrence :: rest =>
    rw [heard] at passing
    change occurrence.isPassing = true at passing
    change rest.countP (·.isPassing) < script.coming.countP (·.isPassing)
    unfold audible at heard
    split at heard
    · have dropped := List.head?_dropWhile_not (fun item : Occurrence => item.isPassing) script.coming
      rw [heard] at dropped
      simp [passing] at dropped
    · rw [heard, List.countP_cons_of_pos passing]
      exact Nat.lt_succ_self _

theorem remaining_send_le (signal : ForwardedSignal) (script : Script) :
    remaining (send signal script).2 ≤ remaining script := by
  unfold send
  match react script.reactions with
  | (.ignore, _) => exact Nat.le_refl _
  | (.fail _, _) => exact Nat.le_refl _
  | (.die, _) => simp [remaining, note, Occurrence.isPassing]
  | (.exit _, _) => simp [remaining, note, Occurrence.isPassing]

/-- The script as the surroundings of a supervisor. -/
def surroundings : Surroundings Script where
  launch := launch
  next := next
  send := send
  remaining := remaining
  next_lt := remaining_next_lt
  send_le := remaining_send_le

end Script
end JarLauncher.Rehearsal
