import JarLauncher.Proofs.Files.Directory
import JarLauncher.Rehearsal.Host
import JarLauncher.Text.Utf8.Exact

/-!
Operations on files in memory, one after another. An operation that fails changes nothing, one that succeeds changes
the places that it names and nothing else but for missing directories, and what is frozen can only be written over.
-/

namespace JarLauncher.Files

open Machine Rehearsal

inductive Operation
  | addFile (path : Path) (contents : Bytes)
  | addDirectory (path : Path)
  | denyReads (path : Path)
  | denyChanges (path : Path)
  | write (path : Path) (contents : Bytes)
  | rename (source target : Path)
  | remove (path : Path)

namespace Operation

/-- Whether an operation puts a file in a place, by naming the place and the contents. -/
def Stores (key : List Component) : Operation → Prop
  | addFile path _ | write path _ => path.components = key
  | _ => False

/-- Whether an operation takes a file out of a place, or moves one to it. -/
def Moves (key : List Component) : Operation → Prop
  | rename source target => source.components = key ∨ target.components = key
  | remove path => path.components = key
  | _ => False

/-- Whether two operations differ in how their paths are spelled at most. -/
inductive Alike : Operation → Operation → Prop
  | addFile {path other : Path} (same : path.components = other.components) (contents : Bytes) :
      Alike (.addFile path contents) (.addFile other contents)
  | addDirectory {path other : Path} (same : path.components = other.components) :
      Alike (.addDirectory path) (.addDirectory other)
  | denyReads {path other : Path} (same : path.components = other.components) :
      Alike (.denyReads path) (.denyReads other)
  | denyChanges {path other : Path} (same : path.components = other.components) :
      Alike (.denyChanges path) (.denyChanges other)
  | write {path other : Path} (same : path.components = other.components) (contents : Bytes) :
      Alike (.write path contents) (.write other contents)
  | rename {source target other place : Path} (same : source.components = other.components)
      (samePlace : target.components = place.components) : Alike (.rename source target) (.rename other place)
  | remove {path other : Path} (same : path.components = other.components) : Alike (.remove path) (.remove other)

/-- What must be the case for an operation to succeed. -/
def Allowed (files : MemoryFiles) : Operation → Prop
  | rename source target =>
    files.isFile source = true ∧ files.frozen source.components = false ∧ files.frozen target.components = false
  | remove path => files.isFile path = true ∧ files.frozen path.components = false
  | _ => True

end Operation

namespace MemoryFiles

/-- Whether two sets of files differ in their entries at most. -/
structure SameDenials (before after : MemoryFiles) : Prop where
  unreadable : after.unreadable = before.unreadable
  frozen : after.frozen = before.frozen

/-- Whether nothing has happened to entries but that directories were made of missing ones above a place. -/
def MadeAbove (before after : MemoryFiles) (place : List Component) (key : List Component) : Prop :=
  after.entries key = (before.entries key).or (if key ≠ [] ∧ key <+: place then some .directory else none)

end MemoryFiles

/-- What a successful operation has done, to all entries and to both lists of what is denied. -/
def Operation.Effect (before after : MemoryFiles) : Operation → Prop
  | addFile path contents | write path contents =>
    after.find? path = some (.file contents) ∧
      (∀ key, key ≠ path.components → before.MadeAbove after path.components.dropLast key) ∧
      before.SameDenials after
  | addDirectory path => (∀ key, before.MadeAbove after path.components key) ∧ before.SameDenials after
  | denyReads path =>
    after.entries = before.entries ∧ after.frozen = before.frozen ∧
      ∀ key, after.unreadable key = true ↔ key = path.components ∨ before.unreadable key = true
  | denyChanges path =>
    after.entries = before.entries ∧ after.unreadable = before.unreadable ∧
      ∀ key, after.frozen key = true ↔ key = path.components ∨ before.frozen key = true
  | rename source target =>
    after.find? target = before.find? source ∧
      (source.components ≠ target.components → after.find? source = none) ∧
      (∀ key, key ≠ source.components → key ≠ target.components → after.entries key = before.entries key) ∧
      before.SameDenials after
  | remove path =>
    after.find? path = none ∧ (∀ key, key ≠ path.components → after.entries key = before.entries key) ∧
      before.SameDenials after

namespace MemoryFiles

/-- Takes an entry out, and puts it in its new place if it is a file, or else back. -/
def takeOver (files : MemoryFiles) (source target : Path) : Except Report Unit × MemoryFiles :=
  let without := files.put source none
  match files.find? source with
  | some (.file contents) => (.ok (), without.put target (some (.file contents)))
  | some .directory =>
    (.error (.ofMessage ("Is a directory: " ++ source.quoted)), without.put source (some .directory))
  | none => (.error (.ofMessage ("File not found: " ++ source.quoted)), without)

/-- The result of an operation, and what it leaves behind: the files as they were if it has failed. -/
def settle (files : MemoryFiles) : Except Report MemoryFiles → Except Report Unit × MemoryFiles
  | .ok after => (.ok (), after)
  | .error report => (.error report, files)

def step (files : MemoryFiles) : Operation → Except Report Unit × MemoryFiles
  | .addFile path contents | .write path contents => (.ok (), files.addFile path contents)
  | .addDirectory path => (.ok (), files.addDirectory path)
  | .denyReads path => (.ok (), files.denyReads path)
  | .denyChanges path => (.ok (), files.denyChanges path)
  | .rename source target =>
    match files.checkChangeable source, files.checkChangeable target with
    | .error report, _ | .ok (), .error report => (.error report, files)
    | .ok (), .ok () => files.takeOver source target
  | .remove path =>
    match files.checkChangeable path, files.fileAt path with
    | .error report, _ | .ok (), .error report => (.error report, files)
    | .ok (), .ok _ => (.ok (), files.put path none)

def run (files : MemoryFiles) (operations : List Operation) : MemoryFiles :=
  operations.foldl (fun files operation => (files.step operation).2) files

/-- What an operation comes to: its result, and what it leaves behind. -/
structure Lawful (before : MemoryFiles) (operation : Operation) (result : Except Report Unit) (after : MemoryFiles) :
    Prop where
  ok_iff : result = .ok () ↔ operation.Allowed before
  atomic : ∀ report, result = .error report → after = before
  effect : result = .ok () → operation.Effect before after

section Steps

variable {files after : MemoryFiles} {source target path : Path} {operation : Operation} {result : Except Report Unit}
  {key : List Component} {contents : Bytes} {entry : Option Entry}

theorem put_put (files : MemoryFiles) (path : Path) (first second : Option Entry) :
    (files.put path first).put path second = files.put path second := by
  have same : replaced (replaced files.entries path.components first) path.components second =
      replaced files.entries path.components second := by
    funext key
    by_cases here : key = path.components <;> simp [replaced, here]
  exact congrArg (MemoryFiles.mk · files.unreadable files.frozen) same

theorem put_self (found : files.find? path = entry) : files.put path entry = files := by
  have same : replaced files.entries path.components entry = files.entries := by
    funext key
    by_cases here : key = path.components
    · subst here
      exact (if_pos rfl).trans found.symm
    · exact if_neg here
  exact congrArg (MemoryFiles.mk · files.unreadable files.frozen) same

/-- What turns out to be no file is back where it was. -/
theorem takeOver_eq (files : MemoryFiles) (source target : Path) :
    files.takeOver source target =
      match files.fileAt source with
      | .ok contents => (.ok (), (files.put source none).put target (some (.file contents)))
      | .error report => (.error report, files) := by
  unfold takeOver fileAt
  cases found : files.find? source with
  | none => simp only [put_self found]
  | some entry =>
      cases entry with
      | file contents => rfl
      | directory => simp only [put_put, put_self found]

/-- A move in place is the move that leaves the old files to whoever asked for it. -/
theorem step_rename (files : MemoryFiles) (source target : Path) :
    files.step (.rename source target) = files.settle (files.rename source target) := by
  simp only [step, rename, takeOver_eq]
  cases files.checkChangeable source with
  | error report => rfl
  | ok free =>
      cases files.checkChangeable target with
      | error report => rfl
      | ok free =>
          cases files.fileAt source <;> rfl

theorem step_remove (files : MemoryFiles) (path : Path) :
    files.step (.remove path) = files.settle (files.remove path) := by
  simp only [step, remove]
  cases files.checkChangeable path with
  | error report => rfl
  | ok free => cases files.fileAt path <;> rfl

theorem rename_eq_ok :
    files.rename source target = .ok after ↔
      files.frozen source.components = false ∧ files.frozen target.components = false ∧
        ∃ contents, files.find? source = some (.file contents) ∧
          after = (files.put source none).put target (some (.file contents)) := by
  rcases found : files.find? source with _ | contents | _
  case some.file =>
    rw [rename_eq found]
    cases files.frozen source.components <;> cases files.frozen target.components <;> simp [eq_comm]
  all_goals
    unfold rename
    rw [checkChangeable_eq, checkChangeable_eq, fileAt, found]
    cases files.frozen source.components <;> cases files.frozen target.components <;> simp [bind, Except.bind]

theorem remove_eq_ok :
    files.remove path = .ok after ↔
      files.frozen path.components = false ∧
        ∃ contents, files.find? path = some (.file contents) ∧ after = files.put path none := by
  rcases found : files.find? path with _ | contents | _
  case some.file =>
    rw [remove_eq found]
    cases files.frozen path.components <;> simp [eq_comm]
  all_goals
    unfold remove
    rw [checkChangeable_eq, fileAt, found]
    cases files.frozen path.components <;> simp [bind, Except.bind]

theorem effect_addFile (files : MemoryFiles) (path : Path) (contents : Bytes) :
    (Operation.addFile path contents).Effect files (files.addFile path contents) :=
  ⟨entries_put_self .., fun _ apart => entries_addFile_of_ne apart contents, rfl, rfl⟩

theorem effect_addDirectory (files : MemoryFiles) (path : Path) :
    (Operation.addDirectory path).Effect files (files.addDirectory path) := by
  refine ⟨?_, rfl, rfl⟩
  intro key
  simp only [MadeAbove, addDirectory, addDirectories, List.isPrefixOf_iff_prefix]

theorem effect_denyReads (files : MemoryFiles) (path : Path) :
    (Operation.denyReads path).Effect files (files.denyReads path) := by
  refine ⟨rfl, rfl, ?_⟩
  intro key
  by_cases here : key = path.components <;> simp [denyReads, replaced, here]

theorem effect_denyChanges (files : MemoryFiles) (path : Path) :
    (Operation.denyChanges path).Effect files (files.denyChanges path) := by
  refine ⟨rfl, rfl, ?_⟩
  intro key
  by_cases here : key = path.components <;> simp [denyChanges, replaced, here]

theorem effect_rename (found : files.find? source = some (.file contents)) (target : Path) :
    (Operation.rename source target).Effect files
      ((files.put source none).put target (some (.file contents))) := by
  refine ⟨(entries_put_self ..).trans found.symm, ?_, ?_, rfl, rfl⟩
  · intro apart
    exact (entries_put_of_ne apart _).trans (entries_put_self ..)
  · intro key notSource notTarget
    rw [entries_put_of_ne notTarget, entries_put_of_ne notSource]

theorem effect_remove (files : MemoryFiles) (path : Path) :
    (Operation.remove path).Effect files (files.put path none) :=
  ⟨entries_put_self .., fun _ apart => entries_put_of_ne apart _, rfl, rfl⟩

theorem lawful_of_done (allowed : operation.Allowed files) (effect : operation.Effect files after) :
    Lawful files operation (.ok ()) after where
  ok_iff := iff_of_true rfl allowed
  atomic := nofun
  effect _ := effect

theorem lawful_of_failed (report : Report) (refused : ¬operation.Allowed files) :
    Lawful files operation (.error report) files where
  ok_iff := iff_of_false nofun refused
  atomic _ _ := rfl
  effect := nofun

/-- Every operation, on all files. -/
theorem lawful_step (files : MemoryFiles) (operation : Operation) :
    Lawful files operation (files.step operation).1 (files.step operation).2 := by
  cases operation with
  | addFile path contents => exact lawful_of_done trivial (effect_addFile files path contents)
  | write path contents => exact lawful_of_done trivial (effect_addFile files path contents)
  | addDirectory path => exact lawful_of_done trivial (effect_addDirectory files path)
  | denyReads path => exact lawful_of_done trivial (effect_denyReads files path)
  | denyChanges path => exact lawful_of_done trivial (effect_denyChanges files path)
  | rename source target =>
      rw [step_rename]
      cases moving : files.rename source target with
      | ok moved =>
          obtain ⟨free, room, contents, found, rfl⟩ := rename_eq_ok.mp moving
          exact lawful_of_done ⟨isFile_eq_true.mpr ⟨contents, found⟩, free, room⟩ (effect_rename found target)
      | error report =>
          apply lawful_of_failed
          rintro ⟨present, free, room⟩
          obtain ⟨contents, found⟩ := isFile_eq_true.mp present
          rw [rename_eq_ok.mpr ⟨free, room, contents, found, rfl⟩] at moving
          cases moving
  | remove path =>
      rw [step_remove]
      cases removing : files.remove path with
      | ok rest =>
          obtain ⟨free, contents, found, rfl⟩ := remove_eq_ok.mp removing
          exact lawful_of_done ⟨isFile_eq_true.mpr ⟨contents, found⟩, free⟩ (effect_remove files path)
      | error report =>
          apply lawful_of_failed
          rintro ⟨present, free⟩
          obtain ⟨contents, found⟩ := isFile_eq_true.mp present
          rw [remove_eq_ok.mpr ⟨free, contents, found, rfl⟩] at removing
          cases removing

/-- A file stays as it is unless an operation stores another in its place, or moves what is not frozen. -/
theorem Lawful.kept (lawful : Lawful files operation result after) (held : files.entries key = some (.file contents))
    (unstored : ¬operation.Stores key) (safe : files.frozen key = true ∨ ¬operation.Moves key) :
    after.entries key = some (.file contents) := by
  cases result with
  | error report => rw [lawful.atomic report rfl, held]
  | ok done =>
      have allowed := lawful.ok_iff.mp rfl
      have effect := lawful.effect rfl
      -- what is moved is not frozen, so that this place is none of those that are named
      have apart {place : List Component} (free : files.frozen place = false)
          (named : place = key → operation.Moves key) : key ≠ place := by
        rintro rfl
        rcases safe with frozen | unmoved
        · rw [free] at frozen
          cases frozen
        · exact unmoved (named rfl)
      cases operation with
      | addFile path stored =>
          rw [effect.2.1 key (Ne.symm unstored), held]
          rfl
      | write path stored =>
          rw [effect.2.1 key (Ne.symm unstored), held]
          rfl
      | addDirectory path =>
          rw [effect.1 key, held]
          rfl
      | denyReads path => rw [effect.1, held]
      | denyChanges path => rw [effect.1, held]
      | rename source target =>
          obtain ⟨-, free, room⟩ := allowed
          rw [effect.2.2.1 key (apart free .inl) (apart room .inr), held]
      | remove path =>
          obtain ⟨-, free⟩ := allowed
          rw [effect.2.1 key (apart free id), held]

theorem Lawful.frozen (lawful : Lawful files operation result after) (frozen : files.frozen key = true) :
    after.frozen key = true := by
  cases result with
  | error report => rw [lawful.atomic report rfl, frozen]
  | ok done =>
      have effect := lawful.effect rfl
      cases operation with
      | addFile path stored => rw [effect.2.2.frozen, frozen]
      | write path stored => rw [effect.2.2.frozen, frozen]
      | addDirectory path => rw [effect.2.frozen, frozen]
      | denyReads path => rw [effect.2.1, frozen]
      | denyChanges path => exact (effect.2.2 key).mpr (.inr frozen)
      | rename source target => rw [effect.2.2.2.frozen, frozen]
      | remove path => rw [effect.2.2.frozen, frozen]

/-- Through any operations a file stays as it is, if none of them stores another in its place and it is frozen or none
of them moves it. -/
theorem entries_run (operations : List Operation) (held : files.entries key = some (.file contents))
    (unstored : ∀ operation ∈ operations, ¬operation.Stores key)
    (safe : files.frozen key = true ∨ ∀ operation ∈ operations, ¬operation.Moves key) :
    (files.run operations).entries key = some (.file contents) := by
  induction operations generalizing files with
  | nil => exact held
  | cons operation operations ih =>
      obtain ⟨here, later⟩ := List.forall_mem_cons.mp unstored
      have lawful := lawful_step files operation
      have kept : (files.step operation).2.entries key = some (.file contents) :=
        lawful.kept held here (safe.imp_right fun unmoved => unmoved operation List.mem_cons_self)
      exact ih kept later (safe.imp lawful.frozen fun unmoved other member =>
        unmoved other (List.mem_cons_of_mem operation member))

theorem settle_alike {attempt other : Except Report MemoryFiles}
    (same : ∀ after, attempt = .ok after ↔ other = .ok after) :
    ((files.settle attempt).1 = .ok () ↔ (files.settle other).1 = .ok ()) ∧
      (files.settle attempt).2 = (files.settle other).2 := by
  cases ended : attempt with
  | ok after =>
      rw [(same after).mp ended]
      exact ⟨Iff.rfl, rfl⟩
  | error report =>
      cases otherEnded : other with
      | ok after =>
          rw [(same after).mpr otherEnded] at ended
          cases ended
      | error otherReport => exact ⟨iff_of_false nofun nofun, rfl⟩

/-- An operation only heeds where its paths lead to. -/
theorem step_alike {other : Operation} (alike : operation.Alike other) :
    ((files.step operation).1 = .ok () ↔ (files.step other).1 = .ok ()) ∧
      (files.step operation).2 = (files.step other).2 := by
  cases alike with
  | addFile same contents => simp only [step, addFile, put, same, and_self]
  | write same contents => simp only [step, addFile, put, same, and_self]
  | addDirectory same => simp only [step, addDirectory, same, and_self]
  | denyReads same => simp only [step, denyReads, same, and_self]
  | denyChanges same => simp only [step, denyChanges, same, and_self]
  | rename same samePlace =>
      rw [step_rename, step_rename]
      apply settle_alike
      intro after
      simp only [rename_eq_ok, find?, put, same, samePlace]
  | remove same =>
      rw [step_remove, step_remove]
      apply settle_alike
      intro after
      simp only [remove_eq_ok, find?, put, same]

end Steps

/-- How a machine with files in memory answers requests about them. -/
structure Answers (host : Host) (files : MemoryFiles) : Prop where
  write : ∀ path contents, Host.answer (.writeFile path contents) { host with memory := some files } =
    ((files.step (.write path contents)).1, { host with memory := some (files.step (.write path contents)).2 })
  rename : ∀ source target, Host.answer (.renameFile source target) { host with memory := some files } =
    ((files.step (.rename source target)).1, { host with memory := some (files.step (.rename source target)).2 })
  remove : ∀ path, Host.answer (.removeFile path) { host with memory := some files } =
    ((files.step (.remove path)).1, { host with memory := some (files.step (.remove path)).2 })
  readText : ∀ path text, (Host.answer (.readText path) { host with memory := some files }).1 = .ok text ↔
    files.Opens path (Utf8.encode text)
  openFile : ∀ path contents, (Host.answer (.openFile path) { host with memory := some files }).1 = .ok contents ↔
    files.Opens path contents

theorem answers_host (host : Host) (files : MemoryFiles) : Answers host files where
  write _ _ := rfl
  rename source target := by
    rw [step_rename]
    change host.changed files (files.rename source target) = _
    cases files.rename source target <;> rfl
  remove path := by
    rw [step_remove]
    change host.changed files (files.remove path) = _
    cases files.remove path <;> rfl
  readText path text := by
    change files.readText path = .ok text ↔ _
    simp only [readText_eq_ok, read_eq_ok_iff, Utf8.decode_eq_ok]
    constructor
    · rintro ⟨_, opens, rfl⟩
      exact opens
    · intro opens
      exact ⟨_, opens, rfl⟩
  openFile path contents := read_eq_ok_iff

/-- On files in memory, whatever has happened to them, every operation succeeds or changes nothing, and does what it is
asked for and no more. A file that is frozen, or that nobody moves, is there with its bytes until others are stored. -/
theorem operations_lawful (host : Host) (files : MemoryFiles) :
    Answers host files ∧
    (∀ operation, Lawful files operation (files.step operation).1 (files.step operation).2) ∧
    (∀ operation other, operation.Alike other →
      ((files.step operation).1 = .ok () ↔ (files.step other).1 = .ok ()) ∧
        (files.step operation).2 = (files.step other).2) ∧
    (∀ path contents operations, files.find? path = some (.file contents) →
      files.frozen path.components = true → (∀ operation ∈ operations, ¬operation.Stores path.components) →
      (files.run operations).find? path = some (.file contents)) ∧
    ∀ path contents operations, (∀ operation ∈ operations, ¬operation.Stores path.components) →
      (∀ operation ∈ operations, ¬operation.Moves path.components) →
      ((files.addFile path contents).run operations).find? path = some (.file contents) := by
  refine ⟨answers_host host files, lawful_step files, fun _ _ => step_alike, ?_, ?_⟩
  · intro path contents operations held frozen unstored
    exact entries_run operations held unstored (.inl frozen)
  · intro path contents operations unstored unmoved
    exact entries_run operations (entries_put_self ..) unstored (.inr unmoved)

/-- An engine that is frozen under another spelling of its path. -/
def frozenEngine : MemoryFiles :=
  MemoryFiles.run {}
    [.addFile (.ofString "cache/engine.jar") [0x50, 0x4B], .denyChanges (.ofString "cache//./engine.jar")]

theorem operations_lawful_frozenEngine :
    (frozenEngine.run [.rename (.ofString "cache/engine.jar") (.ofString "engine.jar"),
        .write (.ofString "cache/version.txt") [0x31], .remove (.ofString "cache/engine.jar/"),
        .addDirectory (.ofString "cache/engine.jar")]).find? (.ofString "cache/engine.jar") =
      some (.file [0x50, 0x4B]) := by
  have apart : (Path.ofString "cache/version.txt").components ≠ (Path.ofString "cache/engine.jar").components := by
    decide
  apply (operations_lawful {} frozenEngine).2.2.2.1
  · decide
  · decide
  · simp only [List.forall_mem_cons, Operation.Stores, not_false_eq_true, apart, List.not_mem_nil, false_imp_iff,
      implies_true, and_self]

end MemoryFiles
end JarLauncher.Files
