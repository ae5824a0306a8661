import JarLauncher.Proofs.Cache.Names

/-!
The files of a cache are never mistaken for one another. Each of them is an entry of the cache directory, and two of
them are in one place only if they are the same file of the same directory. A document is always collected beside its
destination, and never where another document or another process collects one.
-/

namespace JarLauncher.Cache

open Download

/-- A file that an installation works on. The hidden ones belong to one process each. -/
inductive CacheFile
  | artifact
  | marker
  | staging (pid : Nat)
  | temporary (pid : Nat)
  deriving DecidableEq, Repr

namespace CacheFile

def path (descriptor : Descriptor) : CacheFile → Path
  | artifact => descriptor.artifactPath
  | marker => descriptor.markerPath
  | staging pid => stagingPath descriptor.artifactPath pid
  | temporary pid => temporaryMarkerPath descriptor pid

def name : CacheFile → Bytes
  | artifact => artifactName
  | marker => markerName
  | staging pid => stagingName pid
  | temporary pid => temporaryName pid

theorem isName_name (file : CacheFile) : Path.IsName file.name := by
  cases file with
  | artifact => exact isName_artifactName
  | marker => exact isName_markerName
  | staging pid => exact isName_hiddenName (by decide) pid
  | temporary pid => exact isName_temporaryName pid

theorem isEntry_path (descriptor : Descriptor) (file : CacheFile) :
    (file.path descriptor).IsEntry descriptor.cacheDir file.name := by
  cases file with
  | artifact => exact isEntry_artifactPath descriptor
  | marker => exact isEntry_markerPath descriptor
  | staging pid =>
      obtain ⟨place, beside⟩ := beside_artifactPath descriptor pid
      exact beside.staged
  | temporary pid => exact isEntry_temporaryMarkerPath descriptor pid

theorem name_inj {file other : CacheFile} : file.name = other.name ↔ file = other := by
  -- Different files have names that differ in the first letter, the second, or the number of the process.
  cases file <;> cases other <;>
    simp [name, artifactName_ne_markerName.symm, (stagingName_ne_artifactName _).symm,
      (stagingName_ne_markerName _).symm, (temporaryName_ne_artifactName _).symm,
      (temporaryName_ne_markerName _).symm, (stagingName_ne_temporaryName _ _).symm]

end CacheFile

/-- Every file of a cache is an entry of the cache directory, however that is spelled, and in a place of its own. A
document with a text for its name is collected beside its destination, in a place that no other document and no other
process uses. -/
theorem cacheFiles_apart :
    (∀ (descriptor : Descriptor) (file : CacheFile),
      Path.IsName file.name ∧ (file.path descriptor).IsEntry descriptor.cacheDir file.name) ∧
    (∀ (descriptor other : Descriptor) (file otherFile : CacheFile),
      (file.path descriptor).components = (otherFile.path other).components ↔
        descriptor.cacheDir.components = other.cacheDir.components ∧ file = otherFile) ∧
    ∀ (destination : Path) (name : String) (pid : Nat), destination.fileName? = some (Utf8.encode name) →
      (∃ directory, destination.parent? = some directory ∧
        destination.IsEntry directory (Utf8.encode name) ∧
        (stagingPath destination pid).IsEntry directory (Utf8.encode (hiddenName name pid))) ∧
      (stagingPath destination pid).components ≠ destination.components ∧
      ∀ (other : Path) (otherName : String) (otherPid : Nat),
        other.fileName? = some (Utf8.encode otherName) →
        ((stagingPath destination pid).components = (stagingPath other otherPid).components ↔
          destination.components = other.components ∧ pid = otherPid) := by
  refine ⟨fun descriptor file => ⟨file.isName_name, file.isEntry_path descriptor⟩, ?_, ?_⟩
  · intro descriptor other file otherFile
    rw [(file.isEntry_path descriptor).components_inj (otherFile.isEntry_path other), CacheFile.name_inj]
  · intro destination name pid named
    exact ⟨exists_parent_of_stagingPath named pid, components_stagingPath_ne named pid,
      fun _ _ otherPid otherNamed => components_stagingPath_inj named otherNamed pid otherPid⟩

/-- Two hidden names that only a dot tells apart, for destinations in one directory. -/
theorem cacheFiles_apart_dottedName :
    (Path.ofString "out/../a.1//.").fileName? = some (Utf8.encode "a.1") ∧
      (Path.ofString "out/../a").fileName? = some (Utf8.encode "a") ∧
      (stagingPath (.ofString "out/../a.1//.") 2).components ≠ (stagingPath (.ofString "out/../a") 12).components := by
  have named : (Path.ofString "out/../a.1//.").fileName? = some (Utf8.encode "a.1") := by decide
  have otherNamed : (Path.ofString "out/../a").fileName? = some (Utf8.encode "a") := by decide
  obtain ⟨-, -, inj⟩ := cacheFiles_apart.2.2 _ _ 2 named
  refine ⟨named, otherNamed, ?_⟩
  intro same
  exact absurd ((inj _ _ 12 otherNamed).mp same).2 (by decide)

/-- Names that are no text are shown alike, so that their documents are collected in one place. -/
example : stagingPath ⟨[0xFE]⟩ 7 = stagingPath ⟨[0xFF]⟩ 7 := by decide +kernel

end JarLauncher.Cache
