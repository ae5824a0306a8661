import JarLauncher.Proofs.Supervision.WholeRun

/-!
The bits of a wait status. The low seven of them tell how a child ended, the bits 8 to 15 hold its exit code, and the
mark of a core dump and the bits above are ignored. Whatever the status, the launcher's exit code is one byte.
-/

namespace JarLauncher.Supervision

/-- The number that is written in the bits from `first` up to `last`. -/
def bits (raw : Int32) (last first : Nat) : Nat :=
  (raw.toBitVec.extractLsb last first).toNat

/-- A status that says what the bits say: a code if the low seven are zero, a signal if they are from 1 to 126, and
neither if all seven are set. -/
structure Reads (raw : Int32) (status : ChildStatus) : Prop where
  notBoth : status.code = none ∨ status.signal = none
  code : ∀ value, status.code = some value ↔ bits raw 6 0 = 0 ∧ value.toInt = bits raw 15 8
  signal : ∀ number, status.signal = some number ↔
    (1 ≤ bits raw 6 0 ∧ bits raw 6 0 ≤ 126) ∧ number.toInt = bits raw 6 0
  neither : status.code = none ∧ status.signal = none ↔ bits raw 6 0 = 127

/-- What the bits ask of a termination: a byte as the code, zero for a status with neither code nor signal, or one of
126 signals. -/
def Mirrors (raw : Int32) : Termination → Prop
  | .code value => (0 ≤ value.toInt ∧ value.toInt ≤ 255) ∧
      (bits raw 6 0 = 0 ∧ value.toInt = bits raw 15 8 ∨ bits raw 6 0 = 127 ∧ value = 0)
  | .signal number => (1 ≤ number.toInt ∧ number.toInt ≤ 126) ∧ number.toInt = bits raw 6 0

/-- The exit code of a termination, reckoned in numbers without bounds. -/
def Termination.reckoned : Termination → Int
  | .code value => value.toInt
  | .signal number => 128 + number.toInt

section Bits

variable {raw other : Int32}

theorem low_bits_le (raw : Int32) : bits raw 6 0 ≤ 127 :=
  Nat.le_of_lt_succ (raw.toBitVec.extractLsb 6 0).isLt

theorem code_bits_le (raw : Int32) : bits raw 15 8 ≤ 255 :=
  Nat.le_of_lt_succ (raw.toBitVec.extractLsb 15 8).isLt

theorem signalBits_eq (raw : Int32) : ChildStatus.signalBits raw = bits raw 6 0 := by
  rw [bits, BitVec.extractLsb_toNat]
  rfl

theorem codeBits_eq (raw : Int32) : ChildStatus.codeBits raw = bits raw 15 8 := by
  rw [bits, BitVec.extractLsb_toNat, Nat.shiftRight_eq_div_pow]
  rfl

theorem ofWaitStatus_eq (raw : Int32) :
    ChildStatus.ofWaitStatus raw =
      if bits raw 6 0 = 0 then .exited (.ofNat (bits raw 15 8))
      else if bits raw 6 0 < 127 then .signaled (.ofNat (bits raw 6 0))
      else {} := by
  rw [ChildStatus.ofWaitStatus, signalBits_eq, codeBits_eq]

theorem toInt_eq_iff {number : Nat} (small : number ≤ 255) (word : Int32) :
    word.toInt = number ↔ word = .ofNat number := by
  rw [← Int32.toInt_inj, Int32.toInt_ofNat_of_lt (by omega)]

theorem reads_ofWaitStatus (raw : Int32) : Reads raw (.ofWaitStatus raw) := by
  have low := low_bits_le raw
  have codes := toInt_eq_iff (code_bits_le raw)
  have signals := toInt_eq_iff (Nat.le_trans low (by decide))
  rw [ofWaitStatus_eq]
  -- Seven bits are zero, or a signal, or 127: there is no fourth case.
  split
  case isTrue zero =>
    constructor <;> simp [ChildStatus.exited, zero, codes, eq_comm]
  case isFalse some =>
    split
    case isTrue inside =>
      have between : 1 ≤ bits raw 6 0 ∧ bits raw 6 0 ≤ 126 := by omega
      have notAll : bits raw 6 0 ≠ 127 := by omega
      constructor <;> simp [ChildStatus.signaled, some, between, notAll, signals, eq_comm]
    case isFalse outside =>
      have all : bits raw 6 0 = 127 := by omega
      constructor <;> simp [all]

/-- A child that goes on after a stop has neither a code nor a signal. -/
example : ChildStatus.ofWaitStatus 0xFFFF = {} := by decide

/-- Statuses that differ in other bits are read alike. -/
theorem ofWaitStatus_congr (low : bits other 6 0 = bits raw 6 0) (code : bits other 15 8 = bits raw 15 8) :
    ChildStatus.ofWaitStatus other = .ofWaitStatus raw := by
  rw [ofWaitStatus_eq, ofWaitStatus_eq, low, code]

end Bits

section Terminations

variable {raw : Int32} {termination : Termination}

theorem mirrors_ofStatus {status : ChildStatus} (reads : Reads raw status) : Mirrors raw (.ofStatus status) := by
  obtain ⟨code, signal⟩ := status
  cases signal with
  | some number =>
      obtain ⟨between, shown⟩ := (reads.signal number).mp rfl
      exact ⟨by omega, shown⟩
  | none =>
      cases code with
      | some value =>
          obtain ⟨zero, shown⟩ := (reads.code value).mp rfl
          have byte := code_bits_le raw
          exact ⟨by omega, .inl ⟨zero, shown⟩⟩
      | none =>
          have all := reads.neither.mp ⟨rfl, rfl⟩
          exact ⟨by decide, .inr ⟨all, rfl⟩⟩

/-- The sum in an exit code stays within the bounds of a word, because no signal is above 126. -/
theorem Mirrors.toInt_exitCode (mirrors : Mirrors raw termination) :
    termination.exitCode.toInt = termination.reckoned := by
  cases termination with
  | code value => rfl
  | signal number =>
      obtain ⟨⟨positive, most⟩, -⟩ := mirrors
      have shell : (128 : Int32).toInt = 128 := rfl
      calc
        (128 + number).toInt = (128 + number.toInt).bmod (2 ^ 32) := by rw [Int32.toInt_add, shell]
        _ = 128 + number.toInt := Int.bmod_eq_of_le (by omega) (by omega)

theorem Mirrors.reckoned_byte (mirrors : Mirrors raw termination) :
    0 ≤ termination.reckoned ∧ termination.reckoned ≤ 255 := by
  cases termination with
  | code value => exact mirrors.1
  | signal number =>
      obtain ⟨⟨positive, most⟩, -⟩ := mirrors
      change 0 ≤ 128 + number.toInt ∧ 128 + number.toInt ≤ 255
      omega

end Terminations

/-- Any wait status is read by its bits alone. Whatever a running core has been through, the status decides how the
launcher has to end, and the exit code for that is one byte that no addition has wrapped. -/
theorem termination_of_waitStatus (raw : Int32) :
    Reads raw (.ofWaitStatus raw) ∧
    (∀ other, bits other 6 0 = bits raw 6 0 → bits other 15 8 = bits raw 15 8 →
      ChildStatus.ofWaitStatus other = .ofWaitStatus raw) ∧
    ∀ args events pid, ((Core.start args).steps events).1.state = .running pid →
      ∃ termination,
        (((Core.start args).steps events).1.step (.childExited (.ofWaitStatus raw))).1.termination? =
          some termination ∧
        Mirrors raw termination ∧ termination.exitCode.toInt = termination.reckoned ∧
        0 ≤ termination.exitCode.toInt ∧ termination.exitCode.toInt ≤ 255 := by
  refine ⟨reads_ofWaitStatus raw, fun _ => ofWaitStatus_congr, ?_⟩
  intro args events pid running
  have mirrors := mirrors_ofStatus (reads_ofWaitStatus raw)
  refine ⟨_, Core.termination?_childExited running _, mirrors, mirrors.toInt_exitCode, ?_⟩
  rw [mirrors.toInt_exitCode]
  exact mirrors.reckoned_byte

/-- A negative status, with the mark of a core dump and all the bits above it set: the child died of signal 11. -/
theorem termination_of_negativeStatus :
    ((Core.start []).steps [.launched (some 7), .signalReceived .interrupt]).1.state = .running (some 7) ∧
      ∃ termination,
        (((Core.start []).steps [.launched (some 7), .signalReceived .interrupt]).1.step
          (.childExited (.ofWaitStatus (-117)))).1.termination? = some termination ∧
        termination = .signal 11 ∧ termination.exitCode.toInt = 139 := by
  have running :
      ((Core.start []).steps [.launched (some 7), .signalReceived .interrupt]).1.state = .running (some 7) := rfl
  obtain ⟨termination, ends, -, reckoned, -⟩ := (termination_of_waitStatus (-117)).2.2 [] _ (some 7) running
  have signal : termination = .signal 11 := Option.some.inj (ends.symm.trans (by decide))
  refine ⟨running, termination, ends, signal, ?_⟩
  rw [reckoned, signal]
  rfl

end JarLauncher.Supervision
