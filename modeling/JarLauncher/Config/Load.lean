import JarLauncher.Config.Accepted
import JarLauncher.Machine.Procedure
import JarLauncher.Toml.Document

/-!
Where the configuration comes from: the file that the user names, else the file that the environment
names, else the defaults. Documents are read by `Toml.document?` unless another reader is given.
-/

namespace JarLauncher

open Machine

/-- The environment variable that names a configuration file. -/
def configVariable : String := "APEX_LS_MCP_CONFIG"

/-- What the launcher knows of the account it runs in. -/
structure Account where
  /-- The value of the environment variable for the home directory. -/
  homeVariable : Option Bytes := none
  /-- The home directory in the list of accounts. -/
  listedHome : Option Path := none
  /-- The value of the environment variable that names a configuration file. -/
  configVariable : Option Bytes := none

namespace Account

/-- The home directory: as the environment tells it, else as the list of accounts does. -/
def home (account : Account) : Option Path :=
  match account.homeVariable with
  | none | some [] => account.listedHome
  | some bytes => some ⟨bytes⟩

/-- The configuration file to read, if there is one. -/
def configPath (account : Account) (explicit : Option Path) : Option Path :=
  match explicit, account.configVariable with
  | some path, _ => some path
  | none, none | none, some [] => none
  | none, some bytes => some ⟨bytes⟩

end Account

def RawConfig.load (path : Path) (reader : Toml.Reader := Toml.document?) : Attempt RawConfig := ExceptT.mk do
  match ← .request (.readSettings path) with
  | .error fault => return .error (.io fault)
  | .ok contents =>
    match Utf8.decode? contents with
    | none => return .error (.io .notText)
    | some text => return (RawConfig.ofDocument reader text).mapError .document

def Config.load (account : Account) (explicit : Option Path) (reader : Toml.Reader := Toml.document?) :
    Attempt Config := do
  let raw ← match account.configPath explicit with
    | some path => RawConfig.load path reader
    | none => pure {}
  ExceptT.mk (.done raw.accept)

end JarLauncher
