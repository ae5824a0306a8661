import JarLauncher.Proofs.Cache.Installation
import JarLauncher.Rehearsal.Host

/-!
Writing a marker, on files of which some are frozen: the marker takes its place in one move or not at all, and beside
the marker and its hidden companion nothing changes but for the directories that are needed.
-/

namespace JarLauncher.Cache

open Files Machine Rehearsal

variable {files : MemoryFiles} {descriptor : Descriptor} {pid : Nat}

/-- The files once a marker has been prepared. -/
def withPrepared (files : MemoryFiles) (descriptor : Descriptor) (pid : Nat) : MemoryFiles :=
  files.addFile (temporaryMarkerPath descriptor pid) (Utf8.encode descriptor.expectedVersion)

theorem markerPath_ne_temporaryMarkerPath (descriptor : Descriptor) (pid : Nat) :
    descriptor.markerPath.components ≠ (temporaryMarkerPath descriptor pid).components := by
  rw [isEntry_markerPath descriptor, isEntry_temporaryMarkerPath descriptor pid]
  intro same
  have named : markerName = temporaryName pid := by simpa using same
  exact temporaryName_ne_markerName pid named.symm

theorem find?_withPrepared_temporary :
    (withPrepared files descriptor pid).find? (temporaryMarkerPath descriptor pid) =
      some (.file (Utf8.encode descriptor.expectedVersion)) :=
  MemoryFiles.entries_put_self ..

/-- A marker that is being prepared has not touched the one that is there. -/
theorem find?_withPrepared_marker :
    (withPrepared files descriptor pid).find? descriptor.markerPath = files.find? descriptor.markerPath := by
  rw [MemoryFiles.find?_of_isEntry (isEntry_markerPath descriptor),
    MemoryFiles.find?_of_isEntry (isEntry_markerPath descriptor), withPrepared,
    MemoryFiles.inside_addFile (isEntry_temporaryMarkerPath descriptor pid),
    Function.update_of_ne (temporaryName_ne_markerName pid).symm]

theorem entries_withPrepared {key : List Component} (apart : key ≠ (temporaryMarkerPath descriptor pid).components) :
    (withPrepared files descriptor pid).entries key =
      (files.entries key).or
        (if key ≠ [] ∧ key <+: descriptor.cacheDir.components then some .directory else none) := by
  have above : (temporaryMarkerPath descriptor pid).components.dropLast = descriptor.cacheDir.components := by
    rw [isEntry_temporaryMarkerPath descriptor pid, List.dropLast_concat]
  rw [withPrepared, MemoryFiles.entries_addFile_of_ne apart, above]

/-- What comes of moving a prepared marker into its place. -/
def replacement (files : MemoryFiles) (descriptor : Descriptor) (pid : Nat) : Except Report Unit × MemoryFiles :=
  let temporary := temporaryMarkerPath descriptor pid
  let prepared := withPrepared files descriptor pid
  if files.frozen temporary.components then (.error (notPermitted temporary), prepared)
  else if files.frozen descriptor.markerPath.components then
    (.error (notPermitted descriptor.markerPath), prepared.put temporary none)
  else
    (.ok (), (prepared.put temporary none).put descriptor.markerPath
      (some (.file (Utf8.encode descriptor.expectedVersion))))

/-- The error of a marker that could not take its place. -/
def notInstalled (descriptor : Descriptor) (report : Report) : LauncherError :=
  .other (report.within ("installing version marker " ++ descriptor.markerPath.quoted))

/-- Writing a marker is preparing it and moving it; a failure is that of the move, whatever comes of the clean-up. -/
theorem outcome_writeMarker_memory (host : Host) (files : MemoryFiles) (descriptor : Descriptor) (pid : Nat) :
    Attempt.outcome Host.answer (writeMarker pid descriptor) { host with memory := some files } =
      ((replacement files descriptor pid).1.mapError (notInstalled descriptor),
        { host with memory := some (replacement files descriptor pid).2 }) := by
  let prepared := withPrepared files descriptor pid
  let staged := { host with memory := some prepared }
  have writing : Host.answer (writingMarker descriptor pid) { host with memory := some files } = (.ok (), staged) := rfl
  have renamed : prepared.rename (temporaryMarkerPath descriptor pid) descriptor.markerPath =
      if files.frozen (temporaryMarkerPath descriptor pid).components then
        .error (notPermitted (temporaryMarkerPath descriptor pid))
      else if files.frozen descriptor.markerPath.components then
        .error (notPermitted descriptor.markerPath)
      else .ok ((prepared.put (temporaryMarkerPath descriptor pid) none).put descriptor.markerPath
        (some (.file (Utf8.encode descriptor.expectedVersion)))) :=
    MemoryFiles.rename_eq find?_withPrepared_temporary descriptor.markerPath
  have removed : prepared.remove (temporaryMarkerPath descriptor pid) =
      if files.frozen (temporaryMarkerPath descriptor pid).components then
        .error (notPermitted (temporaryMarkerPath descriptor pid))
      else .ok (prepared.put (temporaryMarkerPath descriptor pid) none) :=
    MemoryFiles.remove_eq find?_withPrepared_temporary
  have moving : Host.answer (movingMarker descriptor pid) staged =
      staged.changed prepared (prepared.rename (temporaryMarkerPath descriptor pid) descriptor.markerPath) := rfl
  have clearing : Host.answer (.removeFile (temporaryMarkerPath descriptor pid)) staged =
      staged.changed prepared (prepared.remove (temporaryMarkerPath descriptor pid)) := rfl
  rw [renamed] at moving
  rw [removed] at clearing
  unfold replacement
  by_cases stuck : files.frozen (temporaryMarkerPath descriptor pid).components = true
  · simp only [if_pos stuck] at moving clearing ⊢
    calc
      Attempt.outcome Host.answer (writeMarker pid descriptor) { host with memory := some files } =
          (.error (notInstalled descriptor (notPermitted (temporaryMarkerPath descriptor pid))),
            (Host.answer (.removeFile (temporaryMarkerPath descriptor pid)) staged).2) :=
        outcome_writeMarker_of_written writing moving
      _ = _ := by
        rw [clearing]
        rfl
  · simp only [if_neg stuck] at moving clearing ⊢
    by_cases kept : files.frozen descriptor.markerPath.components = true
    · simp only [if_pos kept] at moving ⊢
      calc
        Attempt.outcome Host.answer (writeMarker pid descriptor) { host with memory := some files } =
            (.error (notInstalled descriptor (notPermitted descriptor.markerPath)),
              (Host.answer (.removeFile (temporaryMarkerPath descriptor pid)) staged).2) :=
          outcome_writeMarker_of_written writing moving
        _ = _ := by
          rw [clearing]
          rfl
    · simp only [if_neg kept] at moving ⊢
      exact outcome_writeMarker_of_written writing moving

/-- What became of files in which a process was to write a marker. -/
structure Replaced (files : MemoryFiles) (descriptor : Descriptor) (pid : Nat) (result : Except LauncherError Unit)
    (after : MemoryFiles) : Prop where
  ok_iff : result = .ok () ↔
    files.frozen (temporaryMarkerPath descriptor pid).components = false ∧
      files.frozen descriptor.markerPath.components = false
  installed : result = .ok () →
    after.find? descriptor.markerPath = some (.file (Utf8.encode descriptor.expectedVersion)) ∧
      after.find? (temporaryMarkerPath descriptor pid) = none
  /-- The failure names the path that is frozen, and the old marker is untouched. -/
  refused : ∀ error, result = .error error →
    error = .other ⟨"installing version marker " ++ descriptor.markerPath.quoted,
      ["Operation not permitted: " ++
        (if files.frozen (temporaryMarkerPath descriptor pid).components then temporaryMarkerPath descriptor pid
          else descriptor.markerPath).quoted]⟩ ∧
    after.find? descriptor.markerPath = files.find? descriptor.markerPath ∧
    after.find? (temporaryMarkerPath descriptor pid) =
      if files.frozen (temporaryMarkerPath descriptor pid).components then
        some (.file (Utf8.encode descriptor.expectedVersion))
      else none
  elsewhere : ∀ key, key ≠ (temporaryMarkerPath descriptor pid).components →
    key ≠ descriptor.markerPath.components →
    after.entries key =
      (files.entries key).or
        (if key ≠ [] ∧ key <+: descriptor.cacheDir.components then some .directory else none)
  unreadable : after.unreadable = files.unreadable
  frozen : after.frozen = files.frozen

theorem replaced_replacement (files : MemoryFiles) (descriptor : Descriptor) (pid : Nat) :
    Replaced files descriptor pid ((replacement files descriptor pid).1.mapError (notInstalled descriptor))
      (replacement files descriptor pid).2 := by
  have apart := markerPath_ne_temporaryMarkerPath descriptor pid
  -- the cases are those of the check before a move: the hidden file first, then the place of the marker
  unfold replacement
  by_cases stuck : files.frozen (temporaryMarkerPath descriptor pid).components = true
  · simp only [if_pos stuck]
    constructor
    case ok_iff =>
      constructor
      · intro success
        cases success
      · intro free
        exact absurd stuck (Bool.eq_false_iff.mp free.1)
    case installed =>
      intro success
      cases success
    case refused =>
      intro error failed
      cases failed
      simp only [if_pos stuck]
      exact ⟨rfl, find?_withPrepared_marker, find?_withPrepared_temporary⟩
    case elsewhere =>
      intro key other _
      exact entries_withPrepared other
    case unreadable => rfl
    case frozen => rfl
  · simp only [if_neg stuck]
    by_cases kept : files.frozen descriptor.markerPath.components = true
    · simp only [if_pos kept]
      constructor
      case ok_iff =>
        constructor
        · intro success
          cases success
        · intro free
          exact absurd kept (Bool.eq_false_iff.mp free.2)
      case installed =>
        intro success
        cases success
      case refused =>
        intro error failed
        cases failed
        simp only [if_neg stuck]
        exact ⟨rfl, (MemoryFiles.entries_put_of_ne apart none).trans find?_withPrepared_marker,
          MemoryFiles.entries_put_self ..⟩
      case elsewhere =>
        intro key other _
        rw [MemoryFiles.entries_put_of_ne other]
        exact entries_withPrepared other
      case unreadable => rfl
      case frozen => rfl
    · simp only [if_neg kept]
      constructor
      case ok_iff => exact iff_of_true rfl ⟨Bool.eq_false_iff.mpr stuck, Bool.eq_false_iff.mpr kept⟩
      case installed =>
        intro _
        exact ⟨MemoryFiles.entries_put_self .., (MemoryFiles.entries_put_of_ne apart.symm _).trans
          (MemoryFiles.entries_put_self ..)⟩
      case refused =>
        intro error failed
        cases failed
      case elsewhere =>
        intro key other notMarker
        rw [MemoryFiles.entries_put_of_ne notMarker, MemoryFiles.entries_put_of_ne other]
        exact entries_withPrepared other
      case unreadable => rfl
      case frozen => rfl

/-- Whatever is in memory and whatever of it is frozen, a marker is replaced in one move or stays as it is. -/
theorem writeMarker_replaced (host : Host) (files : MemoryFiles) (descriptor : Descriptor) (pid : Nat) :
    ∃ result after,
      Attempt.outcome Host.answer (writeMarker pid descriptor) { host with memory := some files } =
        (result, { host with memory := some after }) ∧
      Replaced files descriptor pid result after :=
  ⟨_, _, outcome_writeMarker_memory host files descriptor pid, replaced_replacement files descriptor pid⟩

end JarLauncher.Cache
