import JarLauncher.Files.Memory
import JarLauncher.Machine.Request
import JarLauncher.Proofs.Path
import Mathlib.Logic.Function.Basic

/-!
One directory as a map from names to entries, and what a request does to it when it succeeds.
-/

namespace JarLauncher.Files

open Machine

def Entry.bytes? : Entry → Option Bytes
  | file contents => some contents
  | directory => none

/-- The report on a path that cannot be renamed or removed. -/
def notPermitted (path : Path) : Report :=
  .ofMessage ("Operation not permitted: " ++ path.quoted)

namespace MemoryFiles

def inside (files : MemoryFiles) (directory : Path) (name : Bytes) : Option Entry :=
  files.entries (directory.components ++ [.named name])

/-- Files with one of them under another name. -/
def moved (files : MemoryFiles) (source target : Path) : MemoryFiles :=
  match files.contents? source with
  | some contents => (files.put source none).put target (some (.file contents))
  | none => files

/-- What a request leaves behind when it succeeds. -/
def after (files : MemoryFiles) : Request → MemoryFiles
  | .writeFile path contents => files.addFile path contents
  | .renameFile source target | .replace source target => files.moved source target
  | .removeFile path | .discard path => files.put path none
  | .createDirectories path => files.addDirectory path
  | .createFile path => files.put path (some (.file []))
  | .append path chunk => files.put path (some (.file ((files.contents? path).getD [] ++ chunk)))
  | _ => files

@[simp] theorem unreadable_moved (files : MemoryFiles) (source target : Path) :
    (files.moved source target).unreadable = files.unreadable := by
  unfold moved
  split <;> rfl

@[simp] theorem unreadable_after (files : MemoryFiles) (request : Request) :
    (files.after request).unreadable = files.unreadable := by
  cases request with
  | renameFile source target => exact unreadable_moved files source target
  | replace source target => exact unreadable_moved files source target
  | _ => rfl

theorem contents?_eq_bind (files : MemoryFiles) (path : Path) :
    files.contents? path = (files.find? path).bind Entry.bytes? := by
  unfold contents?
  cases files.find? path with
  | none => rfl
  | some entry => cases entry <;> rfl

variable {files : MemoryFiles} {path other directory place : Path} {name otherName contents : Bytes}

theorem find?_of_isEntry (leads : path.IsEntry directory name) :
    files.find? path = files.inside directory name := by
  rw [find?, leads]
  rfl

theorem contents?_of_isEntry (leads : path.IsEntry directory name) :
    files.contents? path = (files.inside directory name).bind Entry.bytes? := by
  rw [contents?_eq_bind, find?_of_isEntry leads]

theorem contents?_eq_some (leads : path.IsEntry directory name) :
    files.contents? path = some contents ↔ files.inside directory name = some (.file contents) := by
  rw [contents?_of_isEntry leads]
  rcases files.inside directory name with _ | held | _ <;> simp [Entry.bytes?]

/-- Whether there is a file with these contents that may be read. -/
def Opens (files : MemoryFiles) (path : Path) (contents : Bytes) : Prop :=
  files.unreadable path.components = false ∧ files.find? path = some (.file contents)

theorem read_eq_ok_iff : files.read path = .ok contents ↔ files.Opens path contents := by
  unfold read fileAt Opens
  cases files.unreadable path.components with
  | true => simp
  | false => rcases files.find? path with _ | held | _ <;> simp

/-- What can be read from a readable path is the file that is there. -/
theorem read_eq_ok (leads : path.IsEntry directory name) :
    files.read path = .ok contents ↔
      files.unreadable path.components = false ∧ files.inside directory name = some (.file contents) := by
  rw [read_eq_ok_iff, Opens, find?_of_isEntry leads]

theorem isFile_eq_true : files.isFile path = true ↔ ∃ contents, files.find? path = some (.file contents) := by
  unfold isFile contents?
  rcases files.find? path with _ | held | _ <;> simp

theorem isFile_of_isEntry (leads : path.IsEntry directory name) :
    files.isFile path = ((files.inside directory name).bind Entry.bytes?).isSome := by
  rw [isFile, contents?_of_isEntry leads]

/-- What is found at a path decides whether it is a file. -/
theorem isFile_congr {later : MemoryFiles} (same : later.find? path = files.find? path) :
    later.isFile path = files.isFile path := by
  rw [isFile, isFile, contents?_eq_bind, contents?_eq_bind, same]

theorem read_congr {later : MemoryFiles} (same : later.find? path = files.find? path)
    (readable : later.unreadable = files.unreadable) : later.read path = files.read path := by
  rw [read, read, fileAt, fileAt, same, readable]

theorem contents?_of_read (found : files.read path = .ok contents) : files.contents? path = some contents := by
  unfold read fileAt at found
  unfold contents?
  split at found
  · cases found
  split at found
  · rename_i held
    cases found
    rw [held]
  · cases found
  · cases found

theorem isFile_of_read (found : files.read path = .ok contents) : files.isFile path = true := by
  rw [isFile, contents?_of_read found]
  rfl

theorem readText_eq_ok {text : String} :
    files.readText path = .ok text ↔
      ∃ contents, files.read path = .ok contents ∧ Utf8.decode contents = .ok text := by
  unfold readText
  cases files.read path with
  | error report => exact ⟨nofun, nofun⟩
  | ok contents =>
      simp only [bind, Except.bind, Except.ok.injEq, exists_eq_left']
      cases Utf8.decode contents with
      | error fault => exact ⟨nofun, nofun⟩
      | ok found =>
          constructor
          · intro same
            exact congrArg _ (Except.ok.inj same)
          · intro same
            exact congrArg _ (Except.ok.inj same)

theorem inside_put (leads : path.IsEntry directory name) (entry : Option Entry) :
    (files.put path entry).inside directory = Function.update (files.inside directory) name entry := by
  funext asked
  by_cases same : asked = name
  · subst same
    rw [Function.update_self]
    exact if_pos leads.symm
  · rw [Function.update_of_ne same]
    have apart : directory.components ++ [.named asked] ≠ path.components := by
      rw [leads]
      intro equal
      exact same (by simpa using equal)
    exact if_neg apart

/-- Directories that are not below a directory change nothing in it. -/
theorem inside_addDirectories (components : List Component)
    (short : components.length ≤ directory.components.length) :
    (files.addDirectories components).inside directory = files.inside directory := by
  funext asked
  have apart : ¬directory.components ++ [Component.named asked] <+: components := by
    intro leading
    have bound := leading.length_le
    simp only [List.length_append, List.length_singleton] at bound
    omega
  simp [inside, addDirectories, apart]

theorem inside_addDirectory (same : place.components = directory.components) :
    (files.addDirectory place).inside directory = files.inside directory :=
  inside_addDirectories _ (Nat.le_of_eq (congrArg List.length same))

theorem inside_addFile (leads : path.IsEntry directory name) (contents : Bytes) :
    (files.addFile path contents).inside directory =
      Function.update (files.inside directory) name (some (.file contents)) := by
  have above : path.components.dropLast = directory.components := by
    rw [leads, List.dropLast_concat]
  rw [addFile, inside_put leads, above, inside_addDirectories _ (Nat.le_refl _)]

/-- A file that is moved within a directory leaves its old name and takes the place of what had the new one. -/
theorem inside_moved (leads : path.IsEntry directory name) (otherLeads : other.IsEntry directory otherName)
    (found : files.inside directory name = some (.file contents)) :
    (files.moved path other).inside directory =
      Function.update (Function.update (files.inside directory) name none) otherName
        (some (.file contents)) := by
  have read : files.contents? path = some contents := by
    rw [contents?_of_isEntry leads, found]
    rfl
  simp only [moved, read]
  rw [inside_put otherLeads, inside_put leads]

theorem inside_after_append (leads : path.IsEntry directory name)
    (found : files.inside directory name = some (.file contents)) (chunk : Bytes) :
    (files.after (.append path chunk)).inside directory =
      Function.update (files.inside directory) name (some (.file (contents ++ chunk))) := by
  have read : files.contents? path = some contents := by
    rw [contents?_of_isEntry leads, found]
    rfl
  simp only [after, read, Option.getD_some]
  exact inside_put leads _

theorem checkChangeable_eq (files : MemoryFiles) (path : Path) :
    files.checkChangeable path = if files.frozen path.components then .error (notPermitted path) else .ok () := rfl

theorem fileAt_eq_ok (found : files.find? path = some (.file contents)) : files.fileAt path = .ok contents := by
  rw [fileAt, found]

/-- A file that is there can be removed unless it is frozen. -/
theorem remove_eq (found : files.find? path = some (.file contents)) :
    files.remove path =
      if files.frozen path.components then .error (notPermitted path) else .ok (files.put path none) := by
  unfold remove
  rw [checkChangeable_eq, fileAt_eq_ok found]
  cases files.frozen path.components <;> rfl

/-- A file that is there can be renamed unless it is frozen or what it is to replace is. -/
theorem rename_eq (found : files.find? path = some (.file contents)) (target : Path) :
    files.rename path target =
      if files.frozen path.components then .error (notPermitted path)
      else if files.frozen target.components then .error (notPermitted target)
      else .ok ((files.put path none).put target (some (.file contents))) := by
  unfold rename
  rw [checkChangeable_eq, checkChangeable_eq, fileAt_eq_ok found]
  cases files.frozen path.components <;> cases files.frozen target.components <;> rfl

theorem entries_put_self (files : MemoryFiles) (path : Path) (entry : Option Entry) :
    (files.put path entry).find? path = entry :=
  if_pos rfl

theorem entries_put_of_ne {key : List Component} (apart : key ≠ path.components) (entry : Option Entry) :
    (files.put path entry).entries key = files.entries key :=
  if_neg apart

theorem entries_addFile_of_ne {key : List Component} (apart : key ≠ path.components) (contents : Bytes) :
    (files.addFile path contents).entries key =
      (files.entries key).or
        (if key ≠ [] ∧ key <+: path.components.dropLast then some .directory else none) := by
  rw [addFile, entries_put_of_ne apart, addDirectories]
  simp only [List.isPrefixOf_iff_prefix]

end MemoryFiles
end JarLauncher.Files
