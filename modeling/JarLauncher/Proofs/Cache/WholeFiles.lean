import JarLauncher.Proofs.Cache.MixedCache

/-!
No file is ever seen half written. Wherever installations in one cache directory fail or stop, the engine and the
marker change only when a whole file takes their place, and so does the verdict of every reader.
-/

namespace JarLauncher

namespace Machine

/-- Whether every marker has taken its place after an engine of the same process. -/
def EnginesFirst (log : List Exchange) : Prop :=
  ∀ marking earlier, marking :: earlier <:+ log → marking.marks = true →
    ∃ placing ∈ earlier, placing.process = marking.process ∧ placing.places = true

/-- Whether a step has put an engine or a marker in its place. -/
def Pool.Renames {Value : Type} (pool after : Pool Value) : Prop :=
  ∃ exchange, after.log = exchange :: pool.log ∧ (exchange.places = true ∨ exchange.marks = true)

theorem enginesFirst_nil : EnginesFirst [] := by
  intro marking earlier past
  exact absurd past (by simp)

theorem EnginesFirst.cons {log : List Exchange} {exchange : Exchange} (ordered : EnginesFirst log)
    (latest : exchange.marks = true →
      ∃ placing ∈ log, placing.process = exchange.process ∧ placing.places = true) :
    EnginesFirst (exchange :: log) := by
  intro marking earlier past marks
  rcases List.suffix_cons_iff.mp past with same | before
  · cases same
    exact latest marks
  · exact ordered marking earlier before marks

end Machine

namespace Cache

open Download Files Machine

/-- Whether a process has placed its marker, and an engine before that. -/
def MarkedAfterPlacing (log : List Exchange) (pid : Nat) : Prop :=
  ∃ marking earlier, marking :: earlier <:+ log ∧ marking.process = pid ∧ marking.marks = true ∧
    ∃ placing ∈ earlier, placing.process = pid ∧ placing.places = true

section

variable {Value : Type} {directory : Path} {crew : Nat → Option Descriptor} {initial : MemoryFiles}
  {pool after : Pool Value} {log : List Exchange} {pid : Nat}

theorem markedAfterPlacing_of_marker? (ordered : EnginesFirst log) (last : marker? log = some pid) :
    MarkedAfterPlacing log pid := by
  obtain ⟨marking, found, own⟩ := Option.map_eq_some_iff.mp last
  obtain ⟨marks, later, earlier, split, _⟩ := List.find?_eq_some_iff_append.mp found
  have past : marking :: earlier <:+ log := ⟨later, split.symm⟩
  obtain ⟨placing, member, same, places⟩ := ordered marking earlier past marks
  exact ⟨marking, earlier, past, own, marks, placing, member, same.trans own, places⟩

/-- What a step does to the cache directory: it touches hidden files of one process, or it is one of the deeds. -/
theorem Sound.step_cases (sound : Sound directory crew initial pool) (step : pool.Step after) :
    (after.log = pool.log ∧ ∃ pid, ∀ name, name ≠ stagingName pid → name ≠ temporaryName pid →
      after.files.inside directory name = pool.files.inside directory name) ∨
    ∃ exchange installing, crew exchange.process = some installing ∧ after.log = exchange :: pool.log ∧
      Deed directory exchange.process installing pool.files pool.log exchange after.files := by
  cases step with
  | answered pid request next answer files waiting responds =>
      obtain ⟨installing, progress, installs, permitted, _, knows⟩ := sound.asking waiting
      have deed := deed_of_permitted knows permitted responds
      exact .inr ⟨⟨pid, request, answer⟩, installing, installs, rfl, deed⟩
  | underway pid path contents next left waiting partly =>
      obtain ⟨installing, progress, _, permitted, _, _⟩ := sound.asking waiting
      exact .inl ⟨rfl, pid, fun name => elsewhere_of_partly permitted partly⟩
  | stopped pid request next left waiting partly =>
      obtain ⟨installing, progress, _, permitted, _, _⟩ := sound.asking waiting
      exact .inl ⟨rfl, pid, fun name => elsewhere_of_partly permitted partly⟩

/-- Nothing but a rename touches what is not hidden. -/
theorem Sound.inside_of_not_renames (sound : Sound directory crew initial pool) (step : pool.Step after)
    (still : ¬pool.Renames after) {name : Bytes} (staging : ∀ pid, name ≠ stagingName pid)
    (temporary : ∀ pid, name ≠ temporaryName pid) :
    after.files.inside directory name = pool.files.inside directory name := by
  rcases sound.step_cases step with ⟨_, pid, elsewhere⟩ | ⟨exchange, installing, _, longer, deed⟩
  · exact elsewhere name (staging pid) (temporary pid)
  cases deed with
  | hidden own entry isOwn changed places marks =>
      apply inside_of_changed changed
      rcases isOwn with rfl | rfl
      · exact staging _
      · exact temporary _
  | placed contents downloaded changed places marks => exact absurd ⟨exchange, longer, .inl places⟩ still
  | marked earlier changed places marks => exact absurd ⟨exchange, longer, .inr marks⟩ still

theorem Sound.enginesFirst_step (sound : Sound directory crew initial pool) (ordered : EnginesFirst pool.log)
    (step : pool.Step after) : EnginesFirst after.log := by
  rcases sound.step_cases step with ⟨same, _⟩ | ⟨exchange, installing, _, longer, deed⟩
  · rw [same]
    exact ordered
  rw [longer]
  apply ordered.cons
  intro marked
  cases deed with
  | hidden own entry isOwn changed places marks =>
      rw [marks] at marked
      cases marked
  | placed contents downloaded changed places marks =>
      rw [marks] at marked
      cases marked
  | marked earlier changed places marks => exact earlier

theorem Sound.enginesFirst (sound : Sound directory crew initial pool) (ordered : EnginesFirst pool.log)
    (reached : pool.Reaches after) : EnginesFirst after.log := by
  induction reached with
  | refl => exact ordered
  | tail run step ih => exact (sound.reaches run).enginesFirst_step ih step

/-- What the engine is: what it was at first, or a whole document that some installation has downloaded. -/
theorem Sound.engine_cases (sound : Sound directory crew initial pool) :
    pool.files.inside directory artifactName = initial.inside directory artifactName ∨
    ∃ pid installing contents, crew pid = some installing ∧ contents ≠ [] ∧
      DownloadedBy pool.log pid installing.remoteLocation contents ∧
      pool.files.inside directory artifactName = some (.file contents) := by
  cases sound.engine with
  | untouched last same => exact .inl same
  | placed pid installing contents last installs downloaded found =>
      exact .inr ⟨pid, installing, contents, installs, downloaded.ne_nil, downloaded, found⟩

theorem Sound.marker_cases (sound : Sound directory crew initial pool) (ordered : EnginesFirst pool.log) :
    pool.files.inside directory markerName = initial.inside directory markerName ∨
    ∃ pid installing, crew pid = some installing ∧ MarkedAfterPlacing pool.log pid ∧
      pool.files.inside directory markerName = some (.file (Utf8.encode installing.expectedVersion)) := by
  cases sound.marker with
  | untouched last same => exact .inl same
  | marked pid installing last installs earlier found =>
      exact .inr ⟨pid, installing, installs, markedAfterPlacing_of_marker? ordered last, found⟩

end

/-- However installations run side by side, and wherever they fail or stop: the engine is what it was at first or
a whole document that one of them has downloaded, the marker is what it was at first or the version of one that
had placed an engine before, and nothing but a rename changes what any reader is told. -/
theorem whole_files_while_shared {directory : Path} {crew : Nat → Option Descriptor} {initial : MemoryFiles}
    {pool : Pool (Except LauncherError Outcome)} {descriptor : Descriptor}
    (within : ∀ pid installing, crew pid = some installing →
      installing.cacheDir.components = directory.components)
    (reached : (sharing initial crew).Reaches pool)
    (here : descriptor.cacheDir.components = directory.components) :
    (pool.files.find? descriptor.artifactPath = initial.find? descriptor.artifactPath ∨
      ∃ pid installing contents, crew pid = some installing ∧ contents ≠ [] ∧
        DownloadedBy pool.log pid installing.remoteLocation contents ∧
        pool.files.find? descriptor.artifactPath = some (.file contents)) ∧
    (pool.files.find? descriptor.markerPath = initial.find? descriptor.markerPath ∨
      ∃ pid installing, crew pid = some installing ∧ MarkedAfterPlacing pool.log pid ∧
        pool.files.find? descriptor.markerPath =
          some (.file (Utf8.encode installing.expectedVersion))) ∧
    ∀ after, pool.Step after → ¬pool.Renames after → ∀ serve : String → Transfer,
      ((isUsable descriptor).run (Computer.answer serve) { files := after.files }).1 =
        ((isUsable descriptor).run (Computer.answer serve) { files := pool.files }).1 := by
  have start := sound_sharing crew initial within
  have sound := start.reaches reached
  have ordered := start.enginesFirst enginesFirst_nil reached
  have artifactLeads := (isEntry_artifactPath descriptor).congr here
  have markerLeads := (isEntry_markerPath descriptor).congr here
  simp only [MemoryFiles.find?_of_isEntry artifactLeads, MemoryFiles.find?_of_isEntry markerLeads]
  refine ⟨sound.engine_cases, sound.marker_cases ordered, ?_⟩
  intro after step still serve
  have engine := sound.inside_of_not_renames step still (fun pid => (stagingName_ne_artifactName pid).symm)
    fun pid => (temporaryName_ne_artifactName pid).symm
  have marker := sound.inside_of_not_renames step still (fun pid => (stagingName_ne_markerName pid).symm)
    fun pid => (temporaryName_ne_markerName pid).symm
  rw [← MemoryFiles.find?_of_isEntry artifactLeads, ← MemoryFiles.find?_of_isEntry artifactLeads] at engine
  rw [← MemoryFiles.find?_of_isEntry markerLeads, ← MemoryFiles.find?_of_isEntry markerLeads] at marker
  rw [run_isUsable, run_isUsable, seen_congr engine marker step.unreadable]

/-- In the middle of an upgrade, both files are whole ones that came from installations. -/
theorem whole_files_while_upgrading :
    ∃ pool : Pool (Except LauncherError Outcome), (sharing {} upgrading).Reaches pool ∧
      (∃ pid installing, upgrading pid = some installing ∧
        DownloadedBy pool.log pid installing.remoteLocation (releaseBytes "2.0.0")) ∧
      ∃ pid, MarkedAfterPlacing pool.log pid := by
  obtain ⟨pool, reached, _, _, mixed⟩ := exists_mixed_pool
  have here : (release "1.0.0").cacheDir.components = (Path.ofString "cache").components := rfl
  obtain ⟨engine, marker, _⟩ := whole_files_while_shared upgrading_within reached here
  rw [MemoryFiles.find?_of_isEntry ((isEntry_artifactPath (release "1.0.0")).congr here), mixed,
    holding_artifactName] at engine
  rw [MemoryFiles.find?_of_isEntry ((isEntry_markerPath (release "1.0.0")).congr here), mixed,
    holding_markerName] at marker
  refine ⟨pool, reached, ?_, ?_⟩
  · rcases engine with same | ⟨pid, installing, contents, installs, _, downloaded, found⟩
    · cases same
    · cases found
      exact ⟨pid, installing, installs, downloaded⟩
  · rcases marker with same | ⟨pid, installing, _, marked, _⟩
    · cases same
    · exact ⟨pid, marked⟩

end Cache
end JarLauncher
