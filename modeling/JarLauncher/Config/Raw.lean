import JarLauncher.Error
import JarLauncher.Toml.Table

/-!
The settings as a configuration file gives them, before anyone has asked whether they make sense. A setting
that the file does not give has its default.
-/

namespace JarLauncher

/-- The version of the engine that this launcher comes with. -/
def defaultJarVersion : String := "5.9.0"

/-- Where the released versions of the engine are. -/
def defaultDownloadUrl : String :=
  "https://github.com/apex-dev-tools/apex-ls/releases/download/" ++
    "v\x7bjarVersion\x7d/apex-ls-mcp-\x7bjarVersion\x7d-standalone.jar"

structure RawConfig where
  jarVersion : String := defaultJarVersion
  /-- A location with a placeholder for the version. -/
  downloadUrl : String := defaultDownloadUrl
  java : String := "java"
  minJavaMajor : Nat := minimumMajor
  cacheDir : Option Path := none
  deriving DecidableEq, Repr

namespace RawConfig

open Toml

/-- The fault of a value where another kind was expected. -/
def unexpected (value : Value) (expected : String) : DocumentFault :=
  match value.description? with
  | some found => .invalidType found expected
  | none => .overflow

/-- The text that a value is; `expected` describes what the setting needs. -/
def textOf (expected : String) : Value → Except DocumentFault String
  | .string text => .ok text
  | value => .error (unexpected value expected)

/-- The 32-bit number that a value is. -/
def wordOf : Value → Except DocumentFault Nat
  | .integer number =>
    if 0 ≤ number ∧ number < bound 32 then .ok number.toNat
    else if -bound 63 ≤ number ∧ number < bound 64 then
      .error (.invalidValue s!"integer `{number}`" "u32")
    else .error (unexpected (.integer number) "u32")
  | value => .error (unexpected value "u32")

/-- The settings after one more key of a file. -/
def set (raw : RawConfig) (key : String) (value : Value) : Except DocumentFault RawConfig :=
  match key with
  | "jar_version" => return { raw with jarVersion := ← textOf "a string" value }
  | "download_url" => return { raw with downloadUrl := ← textOf "a string" value }
  | "java" => return { raw with java := ← textOf "a string" value }
  | "min_java_major" => return { raw with minJavaMajor := ← wordOf value }
  | "cache_dir" => return { raw with cacheDir := some (.ofString (← textOf "path string" value)) }
  | _ => throw (.unknownField key)

/-- The settings in the entries of a file; the entries are visited in the order of their keys. -/
def ofEntries (entries : Entries) : Except DocumentFault RawConfig :=
  (entries.mergeSort fun left right => left.1 ≤ right.1).foldlM (fun raw entry => raw.set entry.1 entry.2) {}

def ofDocument (reader : Reader) (text : String) : Except DocumentFault RawConfig :=
  match reader text with
  | some entries => ofEntries entries
  | none => .error .grammar

end RawConfig
end JarLauncher
