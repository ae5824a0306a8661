import JarLauncher.Cache.State
import JarLauncher.Proofs.Machine.Protocol

/-!
The protocol that every check of a cache keeps to: it only looks, and it opens the engine once, after the marker has
told the wanted version.
-/

namespace JarLauncher.Cache

open Machine

/-- What a check remembers of what it was told. -/
structure Sighting where
  version : Option String := none
  opened : Option (Except Report Bytes) := none

def Sighting.learn (sighting : Sighting) : (request : Request) → request.Answer → Sighting
  | .readText _, .ok text => { sighting with version := some (Text.trim text) }
  | .openFile _, answer => { sighting with opened := some answer }
  | _, _ => sighting

/-- What a check may ask: it opens the engine once, after the marker has told the wanted version. -/
def Viewing (descriptor : Descriptor) (sighting : Sighting) : Request → Prop
  | .isFile _ => True
  | .readText path => path = descriptor.markerPath
  | .openFile path =>
    path = descriptor.artifactPath ∧ sighting.version = some descriptor.expectedVersion ∧ sighting.opened = none
  | _ => False

def checkerProtocol (descriptor : Descriptor) : Protocol Sighting where
  Allows := Viewing descriptor
  learn := Sighting.learn

/-- Whether the check has opened an archive. -/
def Sighting.OpenedArchive (sighting : Sighting) : Prop :=
  ∃ contents, sighting.opened = some (.ok contents) ∧ startsAsArchive contents = true

section

variable {descriptor : Descriptor} {sighting : Sighting}

theorem markerVersion_keeps_checker (unopened : sighting.opened = none) :
    (markerVersion descriptor).Keeps (checkerProtocol descriptor)
      (fun version after => after.opened = none ∧ ∀ told, version = some told → after.version = some told)
      sighting := by
  unfold markerVersion
  apply Procedure.keeps_bind
  apply Procedure.keeps_request trivial
  intro present
  cases present with
  | false => exact ⟨unopened, nofun⟩
  | true =>
      apply Procedure.keeps_bind
      apply Procedure.keeps_request rfl
      intro read
      cases read with
      | error report => exact ⟨unopened, nofun⟩
      | ok text => exact ⟨unopened, fun told same => same⟩

theorem hasArchiveSignature_keeps_checker (unopened : sighting.opened = none)
    (told : sighting.version = some descriptor.expectedVersion) :
    (hasArchiveSignature descriptor).Keeps (checkerProtocol descriptor)
      (fun valid after => valid = true → after.OpenedArchive) sighting := by
  have viewing : Viewing descriptor sighting (.openFile descriptor.artifactPath) := ⟨rfl, told, unopened⟩
  unfold hasArchiveSignature
  apply Procedure.keeps_bind
  apply Procedure.keeps_request viewing
  intro opened
  cases opened with
  | error report => exact nofun
  | ok contents => exact fun valid => ⟨contents, rfl, valid⟩

/-- A check that finds the cache usable has opened an archive. -/
theorem observe_keeps_checker (unopened : sighting.opened = none) :
    (observe descriptor).Keeps (checkerProtocol descriptor)
      (fun state after => state.isUsable descriptor.expectedVersion = true → after.OpenedArchive) sighting := by
  unfold observe
  apply Procedure.keeps_bind
  apply Procedure.keeps_request trivial
  intro artifactPresent
  apply Procedure.keeps_bind
  apply Procedure.keeps_request trivial
  intro markerPresent
  apply Procedure.keeps_bind
  apply Procedure.Keeps.mono (markerVersion_keeps_checker unopened)
  intro version after sighted
  obtain ⟨still, told⟩ := sighted
  by_cases claimed : (artifactPresent && version = some descriptor.expectedVersion) = true
  · simp only [claimed, if_true]
    have wanted : version = some descriptor.expectedVersion := by simpa using (Bool.and_eq_true_iff.mp claimed).2
    apply Procedure.keeps_bind
    apply Procedure.Keeps.mono (hasArchiveSignature_keeps_checker still (told _ wanted))
    intro valid later opened usable
    exact opened (Bool.and_eq_true_iff.mp usable).2
  · simp only [claimed]
    intro usable
    exact absurd (Bool.and_eq_true_iff.mp usable).2 Bool.false_ne_true

end
end JarLauncher.Cache
