import JarLauncher.Cache.Install
import JarLauncher.Proofs.Download.Staging

/-!
The files that an installation touches are entries of the cache directory: the engine, the marker, and a
hidden companion of each for every process. No two of these are the same.
-/

namespace JarLauncher.Cache

def artifactName : Bytes := Utf8.encode artifactFileName

def markerName : Bytes := Utf8.encode markerFileName

/-- The name under which the process `pid` collects the engine. -/
def stagingName (pid : Nat) : Bytes := Utf8.encode (Download.hiddenName artifactFileName pid)

/-- The name under which the process `pid` prepares the marker. -/
def temporaryName (pid : Nat) : Bytes := Utf8.encode (Download.hiddenName markerFileName pid)

theorem isName_artifactName : Path.IsName artifactName := by
  constructor <;> decide

theorem isName_markerName : Path.IsName markerName := by
  constructor <;> decide

theorem isName_temporaryName (pid : Nat) : Path.IsName (temporaryName pid) :=
  Download.isName_hiddenName (by decide) pid

@[simp] theorem artifactName_ne_markerName : artifactName ≠ markerName := by decide

/-- Hidden names start with a dot, and the names of the engine and the marker do not. -/
theorem hiddenName_ne {text : String} (plain : text.toList.head? ≠ some '.') (name : String) (pid : Nat) :
    Utf8.encode (Download.hiddenName name pid) ≠ Utf8.encode text := by
  intro same
  have chars := congrArg (List.head? ∘ String.toList) (Utf8.encode_injective same)
  rw [Function.comp_apply, Download.toList_hiddenName] at chars
  exact plain chars.symm

@[simp] theorem stagingName_ne_artifactName (pid : Nat) : stagingName pid ≠ artifactName :=
  hiddenName_ne (by decide) _ pid

@[simp] theorem stagingName_ne_markerName (pid : Nat) : stagingName pid ≠ markerName :=
  hiddenName_ne (by decide) _ pid

@[simp] theorem temporaryName_ne_artifactName (pid : Nat) : temporaryName pid ≠ artifactName :=
  hiddenName_ne (by decide) _ pid

@[simp] theorem temporaryName_ne_markerName (pid : Nat) : temporaryName pid ≠ markerName :=
  hiddenName_ne (by decide) _ pid

/-- The letter after the dot tells the companions of the engine from those of the marker. -/
@[simp] theorem stagingName_ne_temporaryName (pid other : Nat) : stagingName pid ≠ temporaryName other := by
  intro same
  have chars := congrArg (fun text => text.toList[1]?) (Utf8.encode_injective same)
  have artifact : artifactFileName.toList = 'a' :: "pex-ls-mcp.jar".toList := by decide
  have marker : markerFileName.toList = 'v' :: "ersion.txt".toList := by decide
  simp [Download.toList_hiddenName, artifact, marker] at chars

@[simp] theorem stagingName_inj {pid other : Nat} : stagingName pid = stagingName other ↔ pid = other :=
  ⟨fun same => (Download.hiddenName_inj.mp (Utf8.encode_injective same)).2, fun same => same ▸ rfl⟩

@[simp] theorem temporaryName_inj {pid other : Nat} :
    temporaryName pid = temporaryName other ↔ pid = other :=
  ⟨fun same => (Download.hiddenName_inj.mp (Utf8.encode_injective same)).2, fun same => same ▸ rfl⟩

variable (descriptor : Descriptor) (pid : Nat)

theorem isEntry_artifactPath : descriptor.artifactPath.IsEntry descriptor.cacheDir artifactName :=
  .join _ isName_artifactName

theorem isEntry_markerPath : descriptor.markerPath.IsEntry descriptor.cacheDir markerName :=
  .join _ isName_markerName

theorem isEntry_temporaryMarkerPath :
    (temporaryMarkerPath descriptor pid).IsEntry descriptor.cacheDir (temporaryName pid) :=
  .join _ (isName_temporaryName pid)

/-- The engine is collected beside its place, however the cache directory is spelled. -/
theorem beside_artifactPath :
    ∃ place, Download.Beside (Download.stagingPath descriptor.artifactPath pid) descriptor.artifactPath
      descriptor.cacheDir place (stagingName pid) artifactName := by
  have named : descriptor.artifactPath.fileName? = some artifactName :=
    Path.fileName?_join descriptor.cacheDir isName_artifactName
  obtain ⟨directory, place, beside⟩ := Download.beside_stagingPath named pid
  rw [artifactName, Utf8.decodeLossy_encode] at beside
  have same := (beside.placed.components_inj (isEntry_artifactPath descriptor)).mp rfl
  exact ⟨place, beside.congr same.1⟩

end JarLauncher.Cache
