import JarLauncher.Config.Load
import JarLauncher.Proofs.Config.Overrides
import JarLauncher.Proofs.Machine.Outcome
import JarLauncher.Rehearsal.Host
import Mathlib

/-!
Where settings are loaded from, and what they come to. One file is read or none; a file that is named must be there
and say something, since no other is read in its place. What a document is, is left to its reader.
-/

namespace JarLauncher

open Machine Rehearsal Toml

/-- The file that settings are loaded from: the one that the user names, else the one that a variable which is not
empty names. -/
def Account.chosenFile (account : Account) (explicit : Option Path) : Option Path :=
  explicit <|> (account.configVariable.filter (· ≠ [])).map Path.mk

section

variable {World : Type} (reader : Reader) (answering : Answering World) (world : World)

/-- What comes of a file that settings are loaded from, as a reader of documents has it. -/
structure LoadedFrom (path : Path) (result : Except LauncherError RawConfig) : Prop where
  settled : ∀ text entries, (answering (.readSettings path) world).1 = .ok (Utf8.encode text) →
    reader text = some entries → Settled entries result
  malformed : ∀ text, (answering (.readSettings path) world).1 = .ok (Utf8.encode text) → reader text = none →
    result = .error (.document .grammar)
  notText : ∀ bytes, (answering (.readSettings path) world).1 = .ok bytes → (∀ text, bytes ≠ Utf8.encode text) →
    result = .error (.io .notText)
  unreadable : ∀ fault, (answering (.readSettings path) world).1 = .error fault → result = .error (.io fault)
  /-- Any other file with these keys and values would do as well. -/
  reordered : ∀ text entries other others (elsewhere : Path) (changed : World),
    (answering (.readSettings path) world).1 = .ok (Utf8.encode text) → reader text = some entries →
    (answering (.readSettings elsewhere) changed).1 = .ok (Utf8.encode other) → reader other = some others →
    entries.Perm others → (Attempt.outcome answering (RawConfig.load elsewhere reader) changed).1 = result

/-- What comes of loading a configuration. -/
structure Resolved (account : Account) (explicit : Option Path) (result : Except LauncherError Config) : Prop where
  /-- Nothing but the chosen file is looked at. -/
  requests : (Config.load account explicit reader).run.requests answering world =
    ((account.chosenFile explicit).map Request.readSettings).toList
  ofFile : ∀ path, account.chosenFile explicit = some path →
    result = (Attempt.outcome answering (RawConfig.load path reader) world).1.bind RawConfig.accept
  unreadable : ∀ path fault, account.chosenFile explicit = some path →
    (answering (.readSettings path) world).1 = .error fault → result = .error (.io fault)
  ofDefaults : account.chosenFile explicit = none → result = packaged.accept

end

section

variable {World : Type} {reader : Reader} {answering : Answering World} {world : World} {account : Account}
  {explicit : Option Path} {path : Path}

theorem configPath_eq : account.configPath explicit = account.chosenFile explicit := by
  unfold Account.configPath Account.chosenFile
  cases explicit with
  | some path => rfl
  | none =>
      cases account.configVariable with
      | none => rfl
      | some bytes => cases bytes <;> rfl

/-- What is loaded depends on the answer to one request. -/
theorem outcome_load : (Attempt.outcome answering (RawConfig.load path reader) world).1 =
    match (answering (.readSettings path) world).1 with
    | .error fault => .error (.io fault)
    | .ok bytes =>
      match Utf8.decode? bytes with
      | none => .error (.io .notText)
      | some text => (RawConfig.ofDocument reader text).mapError .document := by
  unfold RawConfig.load
  rw [Attempt.outcome_mk, Procedure.run_bind, Procedure.run_request]
  dsimp only
  cases (answering (.readSettings path) world).1 with
  | error fault => rfl
  | ok bytes =>
      dsimp only
      cases Utf8.decode? bytes <;> rfl

theorem outcome_load_of_text {text : String}
    (read : (answering (.readSettings path) world).1 = .ok (Utf8.encode text)) :
    (Attempt.outcome answering (RawConfig.load path reader) world).1 =
      (RawConfig.ofDocument reader text).mapError .document := by
  rw [outcome_load, read]
  dsimp only
  rw [Utf8.decode?_encode]

theorem outcome_load_of_entries {text : String} {entries : Entries}
    (read : (answering (.readSettings path) world).1 = .ok (Utf8.encode text))
    (document : reader text = some entries) :
    (Attempt.outcome answering (RawConfig.load path reader) world).1 =
      (RawConfig.ofEntries entries).mapError .document := by
  rw [outcome_load_of_text read, RawConfig.ofDocument, document]

theorem requests_load : (RawConfig.load path reader).run.requests answering world = [.readSettings path] := by
  unfold RawConfig.load
  rw [ExceptT.run_mk, Procedure.requests_bind, Procedure.run_request]
  cases (answering (.readSettings path) world).1 with
  | error fault => rfl
  | ok bytes =>
      dsimp only
      cases Utf8.decode? bytes <;> rfl

theorem loadedFrom_load (keysOnce : reader.KeysOnce) (path : Path) :
    LoadedFrom reader answering world path (Attempt.outcome answering (RawConfig.load path reader) world).1 where
  settled text entries read document := by
    rw [outcome_load_of_entries read document]
    exact RawConfig.settled_ofEntries (keysOnce _ _ document)
  malformed text read document := by
    rw [outcome_load_of_text read, RawConfig.ofDocument, document]
    rfl
  notText bytes read broken := by
    rw [outcome_load, read]
    dsimp only
    rw [Utf8.decode?_eq_none.mpr broken]
  unreadable fault read := by
    rw [outcome_load, read]
  reordered text entries other others elsewhere changed read document otherRead otherDocument perm := by
    have same := RawConfig.ofEntries_perm (keysOnce _ _ document) perm
    calc
      (Attempt.outcome answering (RawConfig.load elsewhere reader) changed).1 =
          (RawConfig.ofEntries others).mapError .document := outcome_load_of_entries otherRead otherDocument
      _ = (RawConfig.ofEntries entries).mapError .document := by rw [same]
      _ = (Attempt.outcome answering (RawConfig.load path reader) world).1 :=
          (outcome_load_of_entries read document).symm

theorem outcome_load_of_chosen (chosen : account.chosenFile explicit = some path) :
    (Attempt.outcome answering (Config.load account explicit reader) world).1 =
      (Attempt.outcome answering (RawConfig.load path reader) world).1.bind RawConfig.accept := by
  unfold Config.load
  rw [configPath_eq, chosen, Attempt.outcome_bind]
  rcases Attempt.outcome answering (RawConfig.load path reader) world with ⟨result, after⟩
  cases result <;> rfl

theorem resolved_load (account : Account) (explicit : Option Path) :
    Resolved reader answering world account explicit
      (Attempt.outcome answering (Config.load account explicit reader) world).1 where
  requests := by
    unfold Config.load
    rw [configPath_eq]
    cases account.chosenFile explicit with
    | none => rfl
    | some path =>
        rw [Attempt.run_bind, Procedure.requests_bind, requests_load]
        rcases (RawConfig.load path reader).run.run answering world with ⟨result, after⟩
        cases result <;> rfl
  ofFile path chosen := outcome_load_of_chosen chosen
  unreadable path fault chosen read := by
    rw [outcome_load_of_chosen chosen, outcome_load, read]
    rfl
  ofDefaults unnamed := by
    unfold Config.load
    rw [configPath_eq, unnamed]
    dsimp only
    rw [Attempt.outcome_bind_of_ok (Attempt.outcome_pure _), packaged_eq, Attempt.outcome_mk, Procedure.run]

end

/-- Settings come from one file or from none, and from a file they come as its document gives them, whatever reader
tells what its documents hold. -/
theorem load_exact {World : Type} (reader : Reader) (keysOnce : reader.KeysOnce) (answering : Answering World)
    (world : World) :
    (∀ path, LoadedFrom reader answering world path (Attempt.outcome answering (RawConfig.load path reader) world).1) ∧
    ∀ account explicit,
      Resolved reader answering world account explicit
        (Attempt.outcome answering (Config.load account explicit reader) world).1 :=
  ⟨loadedFrom_load keysOnce, resolved_load⟩

/-- A file with two values that do not fit; the key of the second comes first in the order of the bytes. -/
def unfitSettings : String :=
  "java = 17\ncache_dir = true\n"

def unfitHost : Host where
  tree := { Host.emptyTree with
    entries := (Host.workplace ++ [Utf8.encode "settings"], .file (Utf8.encode unfitSettings) false) ::
      Host.emptyTree.entries }

theorem load_unfitSettings :
    Reader.KeysOnce document? ∧
      (Attempt.outcome Host.answer
          (Config.load { configVariable := some (Utf8.encode "settings") } none document?) unfitHost).1 =
        .error (.document (.invalidType "boolean `true`" "path string")) := by
  refine ⟨keysOnce_document?, ?_⟩
  have read : (Host.answer (.readSettings (.ofString "settings")) unfitHost).1 = .ok (Utf8.encode unfitSettings) := by
    cbv
  have document : document? unfitSettings = some [("java", .integer 17), ("cache_dir", .boolean true)] := by
    cbv
  have blamed : Blamed "cache_dir" (.boolean true) (.invalidType "boolean `true`" "path string") := .path (by simp)
  have least : LeastUnfit [("java", .integer 17), ("cache_dir", .boolean true)] "cache_dir" (.boolean true) := by
    refine ⟨by simp, RawConfig.not_fits_of_blamed blamed, ?_⟩
    intro other member _
    simp only [List.mem_cons, List.not_mem_nil, or_false] at member
    rcases member with rfl | rfl
    · exact .inr (Utf8.precedes_iff.mpr (by decide))
    · exact .inl rfl
  obtain ⟨loaded, resolved⟩ := load_exact document? keysOnce_document? Host.answer unfitHost
  have settled := (loaded (.ofString "settings")).settled _ _ read document
  rw [(resolved _ _).ofFile (.ofString "settings") rfl, (settled.refused _).mpr ⟨_, _, _, least, blamed, rfl⟩]
  rfl

end JarLauncher
