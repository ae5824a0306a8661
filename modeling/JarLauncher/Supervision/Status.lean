/-!
How a process ends, as its parent learns it: the wait status of the system, the exit code or the signal in
it, and the ending that the launcher gives itself so that its own parent learns the same.
-/

namespace JarLauncher.Supervision

/-- How a child ended: an exit code, a terminating signal, or neither. -/
structure ChildStatus where
  code : Option Int32 := none
  signal : Option Int32 := none
  deriving DecidableEq, Repr

namespace ChildStatus

def exited (code : Int32) : ChildStatus :=
  { code := some code }

def signaled (signal : Int32) : ChildStatus :=
  { signal := some signal }

/-- The low seven bits of a wait status: zero after an exit, else the signal, and 127 for a stopped child. -/
def signalBits (raw : Int32) : Nat :=
  raw.toUInt32.toNat % 128

/-- The bits of a wait status that hold an exit code. -/
def codeBits (raw : Int32) : Nat :=
  raw.toUInt32.toNat / 256 % 256

def ofWaitStatus (raw : Int32) : ChildStatus :=
  let bits := signalBits raw
  if bits = 0 then exited (Int32.ofNat (codeBits raw))
  else if bits < 127 then signaled (Int32.ofNat bits)
  else {}

end ChildStatus

/-- How the launcher has to end once its child is gone. -/
inductive Termination
  | code (code : Int32)
  | signal (signal : Int32)
  deriving DecidableEq, Repr

/-- How a process ended in the eyes of its parent. -/
inductive Ending
  /-- By itself; the parent sees the low eight bits of the code. -/
  | exited (code : Nat)
  | killed (signal : Nat)
  deriving DecidableEq, Repr

namespace Ending

def ofCode (code : Int32) : Ending :=
  .exited (code.toUInt32.toNat % 256)

/-- The status that the parent of an ended process gets. -/
def status : Ending → ChildStatus
  | .exited code => .exited (Int32.ofNat code)
  | .killed signal => .signaled (Int32.ofNat signal)

end Ending

namespace Termination

/-- How to end after a child with this status: a signal counts before a code, and neither means zero. -/
def ofStatus (status : ChildStatus) : Termination :=
  match status.signal, status.code with
  | some number, _ => .signal number
  | none, some value => .code value
  | none, none => .code 0

/-- The exit code that stands for a termination: a shell's 128 + n for signal n. -/
def exitCode : Termination → Int32
  | .code value => value
  | .signal number => 128 + number

/-- The signals that a process can raise by number: the standard ones, not the real-time ones. -/
def isStandard (number : Int32) : Bool :=
  1 ≤ number && number ≤ 31

/-- The standard signals that leave a process alive if it does not handle them. -/
def harmless : List Int32 :=
  [17, 18, 19, 20, 21, 22, 23, 28]

/-- The ending that a termination asks for: the child's code, or the child's signal raised once more. Where
the signal cannot be raised or does not kill, the process exits with the code that stands for it. -/
def ending (termination : Termination) : Ending :=
  match termination with
  | .code value => .ofCode value
  | .signal number =>
    if isStandard number && !harmless.contains number then .killed number.toUInt32.toNat
    else .ofCode termination.exitCode

end Termination
end JarLauncher.Supervision
