import JarLauncher.LogLevel
import JarLauncher.Path

/-!
The command line of the installer. A value may be attached to its option with `=` or follow it; what starts
with a dash, a lone dash aside, is never a value. An option that still waits for its value, or whose value
has not been looked at, is settled when the next known option comes.
-/

namespace JarLauncher.CommandLine

structure Arguments where
  config : Option Path := none
  /-- Whether only to report on the cache. -/
  check : Bool := false
  logLevel : Option LogLevel := none
  deriving DecidableEq, Repr

/-- Why a command line asks for no work. -/
inductive Refusal
  | unknownArgument
  | invalidValue
  | tooManyValues
  | argumentConflict
  | help
  | version
  deriving DecidableEq, Repr

/-- The exit code after a refusal: help and version are no faults. -/
def Refusal.exitCode : Refusal → Int32
  | help | version => 0
  | unknownArgument | invalidValue | tooManyValues | argumentConflict => 2

/-- The name of the installer with its version. -/
def versionLine : String := "apex-ls-mcp-install 0.1.0\n"

/-- An option that takes a value. -/
inductive Setting
  | config
  | logLevel
  deriving DecidableEq, Repr

inductive Name
  | setting (setting : Setting)
  | check
  | help
  | version
  deriving DecidableEq, Repr

def Name.ofLong? (name : Bytes) : Option Name :=
  [("config", setting .config), ("log-level", setting .logLevel), ("check", check), ("help", help),
    ("version", version)].find? (Utf8.encode ·.1 = name) |>.map Prod.snd

/-- A command line as far as it has been read. -/
structure Reading where
  found : Arguments := {}
  /-- The option that is not settled yet, with its value if that has come. -/
  pending : Option (Setting × Option Bytes) := none

namespace Reading

def assign (found : Arguments) (setting : Setting) (value : Bytes) : Except Refusal Arguments :=
  match setting with
  | .config =>
    if found.config.isSome then .error .argumentConflict
    else if value = [] then .error .invalidValue
    else .ok { found with config := some ⟨value⟩ }
  | .logLevel =>
    if found.logLevel.isSome then .error .argumentConflict
    else match (Utf8.decode? value).bind LogLevel.ofName? with
      | some level => .ok { found with logLevel := some level }
      | none => .error .invalidValue

/-- Settles the option that is not settled yet. -/
def settle (reading : Reading) : Except Refusal Arguments :=
  match reading.pending with
  | none => .ok reading.found
  | some (_, none) => .error .invalidValue
  | some (setting, some value) => assign reading.found setting value

/-- Reads an option without an attached value. -/
def option (reading : Reading) (name : Name) : Except Refusal Reading := do
  let found ← reading.settle
  match name with
  | .setting setting => return ⟨found, some (setting, none)⟩
  | .check => if found.check then throw .argumentConflict else return ⟨{ found with check := true }, none⟩
  | .help => throw .help
  | .version => throw .version

/-- Reads an option with an attached value. -/
def attached (reading : Reading) (name : Name) (value : Bytes) : Except Refusal Reading := do
  match name with
  | .setting setting => return ⟨← assign (← reading.settle) setting value, none⟩
  | _ => throw .tooManyValues

/-- Reads a long option, without its dashes. -/
def long (reading : Reading) (text : Bytes) : Except Refusal Reading :=
  match Name.ofLong? (text.takeWhile (· ≠ 0x3D)), text.dropWhile (· ≠ 0x3D) with
  | none, _ => .error .unknownArgument
  | some name, [] => reading.option name
  | some name, _ :: value => reading.attached name value

/-- Reads a short option; each of them asks for something else than work. -/
def short (reading : Reading) (letter : UInt8) : Except Refusal Reading :=
  if letter = 0x68 then reading.option .help
  else if letter = 0x56 then reading.option .version
  else .error .unknownArgument

/-- Reads what is no option. -/
def plain (reading : Reading) (value : Bytes) : Except Refusal Reading :=
  match reading.pending with
  | some (setting, none) => .ok { reading with pending := some (setting, some value) }
  | _ => .error .unknownArgument

def argument (reading : Reading) : Bytes → Except Refusal Reading
  | 0x2D :: 0x2D :: text => reading.long text
  | 0x2D :: letter :: _ => reading.short letter
  | value => reading.plain value

/-- Reads all arguments; after two dashes alone no argument is known. -/
def arguments (reading : Reading) : List Bytes → Except Refusal Arguments
  | [] => reading.settle
  | [0x2D, 0x2D] :: [] => reading.settle
  | [0x2D, 0x2D] :: _ => .error .unknownArgument
  | argument :: rest => do (← reading.argument argument).arguments rest

end Reading

def parse (arguments : List Bytes) : Except Refusal Arguments :=
  ({} : Reading).arguments arguments

end JarLauncher.CommandLine
