import JarLauncher.Files.Tree
import JarLauncher.Proofs.Files.Directory
import JarLauncher.Proofs.Machine.Outcome

/-!
A computer on which every file operation succeeds, unless what it needs is missing or a directory is in its
way. It remembers the locations that it has asked servers for.
-/

namespace JarLauncher.Files

open Machine

/-- What keeps a request to change files from succeeding. -/
def MemoryFiles.obstacle? (files : MemoryFiles) : Request → Option IoFault
  | .writeFile path _ | .createFile path =>
    if files.find? path = some .directory then some Fault.isDirectory else none
  | .renameFile source target | .replace source target =>
    if !files.isFile source then some Fault.noEntry
    else if files.find? target = some .directory then some Fault.isDirectory
    else none
  | .removeFile path | .discard path | .append path _ =>
    if files.isFile path then none else some Fault.noEntry
  | _ => none

structure Computer where
  files : MemoryFiles
  asked : List String := []

namespace Computer

/-- Changes files as a request says, or leaves them as they are. -/
def changed (computer : Computer) (request : Request) : Except IoFault Unit × Computer :=
  match computer.files.obstacle? request with
  | some fault => (.error fault, computer)
  | none => (.ok (), { computer with files := computer.files.after request })

def reported (computer : Computer) (request : Request) : Except Report Unit × Computer :=
  ((computer.changed request).1.mapError fun fault => .ofMessage fault.message,
    (computer.changed request).2)

def answer (serve : String → Download.Transfer) : Answering Computer
  | .isFile path, computer => (computer.files.isFile path, computer)
  | .readText path, computer => (computer.files.readText path, computer)
  | .openFile path, computer => (computer.files.read path, computer)
  | .writeFile path contents, computer => computer.reported (.writeFile path contents)
  | .renameFile source target, computer => computer.reported (.renameFile source target)
  | .removeFile path, computer => computer.reported (.removeFile path)
  | .createDirectories path, computer => computer.changed (.createDirectories path)
  | .createFile path, computer => computer.changed (.createFile path)
  | .append path chunk, computer => computer.changed (.append path chunk)
  | .flush _, computer => (.ok (), computer)
  | .sync _, computer => (.ok (), computer)
  | .size path, computer =>
    (match computer.files.contents? path with
      | some contents => .ok contents.length
      | none => .error Fault.noEntry, computer)
  | .replace source target, computer => computer.changed (.replace source target)
  | .discard path, computer => computer.changed (.discard path)
  | .get url, computer => (serve url, { computer with asked := computer.asked ++ [url] })
  | .readSettings _, computer => (.error Fault.noEntry, computer)
  | .askVersion _, computer => (.error Fault.noEntry, computer)
  | .supervise program _, computer => (.error (.launchFailed program none Fault.noEntry), computer)
  | .say _, computer => ((), computer)

/-- What has happened to a computer, as far as one directory goes. -/
structure Became (before after : Computer) (directory : Path) (held : Bytes → Option Entry)
    (asked : List String) : Prop where
  inside : after.files.inside directory = held
  unreadable : after.files.unreadable = before.files.unreadable
  asked : after.asked = before.asked ++ asked

namespace Became

variable {first second third : Computer} {directory : Path} {held later : Bytes → Option Entry}
  {asked more : List String}

theorem refl (computer : Computer) (directory : Path) :
    Became computer computer directory (computer.files.inside directory) [] :=
  ⟨rfl, rfl, (List.append_nil _).symm⟩

theorem trans (start : Became first second directory held asked)
    (rest : Became second third directory later more) :
    Became first third directory later (asked ++ more) where
  inside := rest.inside
  unreadable := rest.unreadable.trans start.unreadable
  asked := by rw [rest.asked, start.asked, List.append_assoc]

end Became

variable {computer : Computer} {request : Request} {directory path other place : Path}
  {name otherName contents : Bytes}

theorem changed_of_clear (clear : computer.files.obstacle? request = none) :
    computer.changed request = (.ok (), { computer with files := computer.files.after request }) := by
  rw [changed, clear]

theorem changed_of_blocked {fault : IoFault} (blocked : computer.files.obstacle? request = some fault) :
    computer.changed request = (.error fault, computer) := by
  rw [changed, blocked]

theorem reported_of_changed {after : Computer} (done : computer.changed request = (.ok (), after)) :
    computer.reported request = (.ok (), after) := by
  rw [reported, done]
  rfl

theorem reported_of_blocked {fault : IoFault} (blocked : computer.files.obstacle? request = some fault) :
    computer.reported request = (.error (.ofMessage fault.message), computer) := by
  rw [reported, changed_of_blocked blocked]
  rfl

theorem clear_of_changed {done : Unit} (succeeded : (computer.changed request).1 = .ok done) :
    computer.files.obstacle? request = none := by
  cases obstacle : computer.files.obstacle? request with
  | none => rfl
  | some fault =>
      rw [changed_of_blocked obstacle] at succeeded
      cases succeeded

/-- A request that succeeds changes the directory as the request says, and nothing else. -/
theorem changed_became {held : Bytes → Option Entry} (clear : computer.files.obstacle? request = none)
    (effect : (computer.files.after request).inside directory = held) :
    ∃ after, computer.changed request = (.ok (), after) ∧ Became computer after directory held [] := by
  refine ⟨_, changed_of_clear clear, effect, ?_, (List.append_nil _).symm⟩
  exact MemoryFiles.unreadable_after computer.files request

theorem createDirectories_became (computer : Computer) (same : place.components = directory.components) :
    ∃ after, computer.changed (.createDirectories place) = (.ok (), after) ∧
      Became computer after directory (computer.files.inside directory) [] :=
  changed_became rfl (MemoryFiles.inside_addDirectory same)

theorem createFile_became (leads : path.IsEntry directory name)
    (free : computer.files.inside directory name ≠ some .directory) :
    ∃ after, computer.changed (.createFile path) = (.ok (), after) ∧
      Became computer after directory
        (Function.update (computer.files.inside directory) name (some (.file []))) [] := by
  have clear : computer.files.obstacle? (.createFile path) = none := by
    rw [MemoryFiles.obstacle?, MemoryFiles.find?_of_isEntry leads, if_neg free]
  exact changed_became clear (MemoryFiles.inside_put leads _)

theorem writeFile_became (leads : path.IsEntry directory name) (contents : Bytes)
    (free : computer.files.inside directory name ≠ some .directory) :
    ∃ after, computer.changed (.writeFile path contents) = (.ok (), after) ∧
      Became computer after directory
        (Function.update (computer.files.inside directory) name (some (.file contents))) [] := by
  have clear : computer.files.obstacle? (.writeFile path contents) = none := by
    rw [MemoryFiles.obstacle?, MemoryFiles.find?_of_isEntry leads, if_neg free]
  exact changed_became clear (MemoryFiles.inside_addFile leads contents)

theorem isFile_of_found (leads : path.IsEntry directory name)
    (found : computer.files.inside directory name = some (.file contents)) :
    computer.files.isFile path = true := by
  rw [MemoryFiles.isFile_of_isEntry leads, found]
  rfl

theorem append_became (leads : path.IsEntry directory name)
    (found : computer.files.inside directory name = some (.file contents)) (chunk : Bytes) :
    ∃ after, computer.changed (.append path chunk) = (.ok (), after) ∧
      Became computer after directory
        (Function.update (computer.files.inside directory) name (some (.file (contents ++ chunk)))) [] := by
  have clear : computer.files.obstacle? (.append path chunk) = none := by
    rw [MemoryFiles.obstacle?, isFile_of_found leads found, if_pos rfl]
  exact changed_became clear (MemoryFiles.inside_after_append leads found chunk)

theorem removed_became (leads : path.IsEntry directory name)
    (found : computer.files.inside directory name = some (.file contents)) :
    ∃ after, computer.changed (.discard path) = (.ok (), after) ∧
      Became computer after directory (Function.update (computer.files.inside directory) name none) [] := by
  have clear : computer.files.obstacle? (.discard path) = none := by
    rw [MemoryFiles.obstacle?, isFile_of_found leads found, if_pos rfl]
  exact changed_became clear (MemoryFiles.inside_put leads none)

theorem moved_became (leads : path.IsEntry directory name) (otherLeads : other.IsEntry directory otherName)
    (found : computer.files.inside directory name = some (.file contents))
    (free : computer.files.inside directory otherName ≠ some .directory) :
    ∃ after, computer.changed (.replace path other) = (.ok (), after) ∧
      Became computer after directory
        (Function.update (Function.update (computer.files.inside directory) name none) otherName
          (some (.file contents))) [] := by
  have clear : computer.files.obstacle? (.replace path other) = none := by
    rw [MemoryFiles.obstacle?, isFile_of_found leads found, MemoryFiles.find?_of_isEntry otherLeads,
      if_neg free]
    rfl
  exact changed_became clear (MemoryFiles.inside_moved leads otherLeads found)

/-- What is left of a download is gone after it is discarded, if it was a file. -/
theorem discard_became (leads : path.IsEntry directory name)
    (free : computer.files.inside directory name ≠ some .directory) :
    ∃ result after, computer.changed (.discard path) = (result, after) ∧
      Became computer after directory (Function.update (computer.files.inside directory) name none) [] := by
  rcases found : computer.files.inside directory name with _ | contents | _
  · have blocked : computer.files.obstacle? (.discard path) = some Fault.noEntry := by
      rw [MemoryFiles.obstacle?, MemoryFiles.isFile_of_isEntry leads, found]
      rfl
    have kept := Became.refl computer directory
    rw [Function.update_eq_self_iff.mpr found.symm]
    exact ⟨_, _, changed_of_blocked blocked, kept⟩
  · obtain ⟨after, done, became⟩ := removed_became leads found
    exact ⟨_, after, done, became⟩
  · exact absurd found free

end Computer
end JarLauncher.Files
