import JarLauncher.Text.Blank
import JarLauncher.Text.Utf8

/-!
How much is logged: as the command line says, else as the environment says, else a default.
-/

namespace JarLauncher

inductive LogLevel
  | error
  | warn
  | info
  | debug
  | trace
  deriving DecidableEq, Repr

namespace LogLevel

def environmentVariable : String := "APEX_LS_MCP_LOG"

def name : LogLevel → String
  | error => "error"
  | warn => "warn"
  | info => "info"
  | debug => "debug"
  | trace => "trace"

def all : List LogLevel :=
  [error, warn, info, debug, trace]

def ofName? (text : String) : Option LogLevel :=
  all.find? (·.name = text)

/-- The level that a text names, whatever the case of its letters and the blanks around it. -/
def ofText? (text : String) : Option LogLevel :=
  let word := String.ofList ((Text.trimBlanks text.toList).map Char.toLower)
  if word = "warning" then some warn else ofName? word

/-- The level in force. -/
def choose (explicit : Option LogLevel) (environment : Option Bytes) (default : LogLevel) : LogLevel :=
  (explicit <|> (environment.bind Utf8.decode?).bind ofText?).getD default

/-- What a second attempt to set up logging says. -/
def alreadyChosen : String :=
  "installing log subscriber: a global default trace dispatcher has already been set"

end LogLevel
end JarLauncher
