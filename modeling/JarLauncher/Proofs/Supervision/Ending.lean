import JarLauncher.Proofs.Supervision.Schedule

/-!
How the launcher ends after its child. The end of the child comes as a wait status; what the launcher reads in it,
keeps in its core and passes on is the same end, as far as the launcher can bring it about.
-/

namespace JarLauncher.Supervision

namespace Ending

/-- What a process can come to on this system: the codes are bytes, and there are 64 signals. -/
def Possible : Ending → Prop
  | .exited code => code < 256
  | .killed signal => 1 ≤ signal ∧ signal ≤ 64

instance (ending : Ending) : Decidable ending.Possible := by
  unfold Possible
  cases ending <;> infer_instance

/-- The wait status of an ended process: the code in the second byte, or the signal and the mark of a core dump. -/
def waitStatus (coreDumped : Bool) : Ending → Int32
  | .exited code => .ofNat (code * 256)
  | .killed signal => .ofNat (signal + if coreDumped then 128 else 0)

/-- The signals of which a process dies when it raises them: standard ones, which are not just ignored and do not
just stop it. -/
def Raisable (signal : Nat) : Prop :=
  signal ≤ 31 ∧ Int32.ofNat signal ∉ Termination.harmless

instance (signal : Nat) : Decidable (Raisable signal) :=
  inferInstanceAs (Decidable (_ ∧ _))

/-- How a launcher ends after a child: like the child, except that it exits with a shell's code for a signal that it
cannot raise. -/
def passedOn : Ending → Ending
  | .exited code => .exited code
  | .killed signal => if Raisable signal then .killed signal else .exited (128 + signal)

variable {ending : Ending}

theorem toNat_toUInt32_ofNat {number : Nat} (small : number < 4294967296) :
    (Int32.ofNat number).toUInt32.toNat = number := by
  rw [Int32.toUInt32_ofNat', UInt32.toNat_ofNat_of_lt' small]

/-- What is read in a wait status is how the process ended, with or without a core dump. -/
theorem ofWaitStatus_waitStatus (possible : ending.Possible) (coreDumped : Bool) :
    ChildStatus.ofWaitStatus (ending.waitStatus coreDumped) = ending.status := by
  cases ending with
  | exited code =>
      have byte : code < 256 := possible
      have number : (Int32.ofNat (code * 256)).toUInt32.toNat = code * 256 := toNat_toUInt32_ofNat (by omega)
      have bits : ChildStatus.signalBits (waitStatus coreDumped (.exited code)) = 0 := by
        rw [ChildStatus.signalBits, waitStatus, number]
        omega
      have codes : ChildStatus.codeBits (waitStatus coreDumped (.exited code)) = code := by
        rw [ChildStatus.codeBits, waitStatus, number]
        omega
      simp only [ChildStatus.ofWaitStatus, bits, codes, if_true, status]
  | killed signal =>
      obtain ⟨positive, atMost⟩ : 1 ≤ signal ∧ signal ≤ 64 := possible
      have bits : ChildStatus.signalBits (waitStatus coreDumped (.killed signal)) = signal := by
        rw [ChildStatus.signalBits, waitStatus, toNat_toUInt32_ofNat (by split <;> omega)]
        split <;> omega
      have some : signal ≠ 0 := by omega
      have inside : signal < 127 := by omega
      simp only [ChildStatus.ofWaitStatus, bits, some, inside, if_true, if_false, status]

/-- What the launcher does after a child has ended like this. -/
theorem ending_ofStatus (possible : ending.Possible) :
    (Termination.ofStatus ending.status).ending = ending.passedOn := by
  cases ending with
  | exited code =>
      have byte : code < 256 := possible
      change ofCode (Int32.ofNat code) = .exited code
      rw [ofCode, toNat_toUInt32_ofNat (by omega), Nat.mod_eq_of_lt byte]
  | killed signal =>
      have signals : ∀ signal : Fin 65, 1 ≤ signal.val →
          (Termination.signal (Int32.ofNat signal)).ending = passedOn (.killed signal) := by
        decide
      obtain ⟨positive, atMost⟩ : 1 ≤ signal ∧ signal ≤ 64 := possible
      exact signals ⟨signal, Nat.lt_succ_of_le atMost⟩ positive

end Ending

section Run

variable {World : Type}

/-- However a child ends that was launched, and whatever came before its end, the launcher ends as the child did,
or with the code that stands for a signal that cannot be raised. The last thing that it does before is to wait. -/
theorem run_after_child (surroundings : Surroundings World) (program : Bytes) (args : List Bytes)
    (pid : Option Nat) (world : World)
    (launched : (surroundings.launch program args world).1 = .ok pid) :
    ∃ (earlier : List Call) (asking : Bool) (final : Occurrence) (result : Except LauncherError Ending)
      (after : World),
      run surroundings program args world = (result, after) ∧
      run surroundings.recorded program args (world, []) = (result, after, earlier ++ [.awaited asking final]) ∧
      final.isPassing = false ∧
      (∀ fault, final = .waitFailed fault → result = .error (.io fault)) ∧
      ∀ (child : Ending) (coreDumped : Bool), child.Possible →
        final = .exited (.ofWaitStatus (child.waitStatus coreDumped)) →
          result = .ok child.passedOn := by
  obtain ⟨turns, last, final, after, goesOn, ended, recordedRun, plainRun⟩ :=
    superviseWithCore_recorded surroundings program args pid world launched
  refine ⟨.launched program args :: turns, last, final,
    ((resultOf args pid (Call.signalsSent turns) final).map Prod.fst).map Termination.ending, after,
    ?_, ?_, ended, ?_, ?_⟩
  · simp only [run, supervise, plainRun]
  · simp only [run, supervise, recordedRun, List.cons_append]
  · rintro fault rfl
    rfl
  · rintro child coreDumped possible rfl
    rw [Ending.ofWaitStatus_waitStatus possible, ← Ending.ending_ofStatus possible]
    rfl

/-- A child that is interrupted and then ends like this. -/
def interruptedChild (child : Ending) (coreDumped : Bool) : Rehearsal.Script where
  coming := [.received .interrupt, .exited (.ofWaitStatus (child.waitStatus coreDumped))]
  pid := some 7

theorem run_interruptedChild (child : Ending) (coreDumped : Bool) :
    ∃ after, run Rehearsal.Script.surroundings.recorded (Utf8.encode "java") []
        (interruptedChild child coreDumped, []) =
      (.ok (Termination.ofStatus (.ofWaitStatus (child.waitStatus coreDumped))).ending, after,
        [.launched (Utf8.encode "java") [], .awaited true (.received .interrupt), .sent .interrupt (.ok ())] ++
          [.awaited true (.exited (.ofWaitStatus (child.waitStatus coreDumped)))]) := by
  unfold run supervise superviseWithCore
  simp only [Surroundings.recorded, Rehearsal.Script.surroundings, Rehearsal.Script.launch, interruptedChild]
  rw [watch_of_received _ _ _ rfl, watch_of_exited _ _ _ rfl, conclude, Core.termination?_childExited rfl]
  exact ⟨_, rfl⟩

/-- A launcher whose child crashes with a core dump dies of the same signal. -/
theorem run_after_crash :
    (Rehearsal.Script.surroundings.launch (Utf8.encode "java") [] (interruptedChild (.killed 11) true)).1 =
        .ok (some 7) ∧
      (run Rehearsal.Script.surroundings (Utf8.encode "java") [] (interruptedChild (.killed 11) true)).1 =
        .ok (.killed 11) := by
  obtain ⟨earlier, asking, final, result, after, plain, recordedRun, -, -, mirrored⟩ :=
    run_after_child Rehearsal.Script.surroundings (Utf8.encode "java") [] (some 7)
      (interruptedChild (.killed 11) true) rfl
  obtain ⟨_, expected⟩ := run_interruptedChild (.killed 11) true
  rw [recordedRun] at expected
  have calls := congrArg (fun outcome => outcome.2.2) expected
  have last : [Call.awaited asking final] = [Call.awaited true _] := (List.append_inj' calls rfl).2
  have died : final = .exited (.ofWaitStatus ((Ending.killed 11).waitStatus true)) := by
    cases last
    rfl
  rw [plain]
  exact ⟨rfl, mirrored (.killed 11) true (by decide) died⟩

/-- A child may die of a real-time signal, but the launcher then exits. -/
theorem run_after_realTimeSignal :
    let child := Ending.killed 34
    child.Possible ∧
      ∃ (earlier : List Call) (result : Except LauncherError Ending) (after : Rehearsal.Script),
        run Rehearsal.Script.surroundings.recorded (Utf8.encode "java") [] (interruptedChild child false, []) =
          (result, after, earlier ++ [.awaited true (.exited (.ofWaitStatus (child.waitStatus false)))]) ∧
        result = .ok (.exited 162) ∧ result ≠ .ok child := by
  intro child
  obtain ⟨after, ran⟩ := run_interruptedChild child false
  have shown : (Termination.ofStatus (.ofWaitStatus (child.waitStatus false))).ending = .exited 162 := by decide
  rw [shown] at ran
  exact ⟨by decide, _, _, after, ran, rfl, by simp [child]⟩


end Run

end JarLauncher.Supervision
