import JarLauncher.Files.Tree
import JarLauncher.Rehearsal.ShellScript
import JarLauncher.Supervision.Core

/-!
Running small shell scripts in a tree of files. A script plays the part of a runtime: it can write, end in
every way a process can end, send signals to itself and to the process that supervises it, and say what is
to be done when a signal comes.
-/

namespace JarLauncher.Rehearsal

open Files Supervision

/-- What a running script finds around itself and leaves behind. -/
structure Shell where
  tree : Tree
  input : Bytes := []
  printed : Bytes := []
  complained : Bytes := []
  /-- The values of variables, the latest first. -/
  bindings : List (String × Bytes) := []
  /-- The name and the arguments that the script was started with. -/
  zero : Bytes := []
  args : List Bytes := []
  status : Nat := 0
  /-- What to do when a signal comes: nothing, or these statements. -/
  traps : List (Nat × Option (List Statement)) := []
  pending : List Nat := []
  /-- The signals that the supervisor has handed on. -/
  handedOn : List ForwardedSignal := []
  /-- The signal that has killed the supervisor. -/
  supervisorKilled : Option Nat := none

namespace Shell

/-- The numbers of the processes of a script and of its supervisor. -/
def selfNumber : Nat := 4243

/-- The number of the process that supervises a script. -/
def parentNumber : Nat := 4242

def signalNames : List (String × Nat) :=
  [("HUP", 1), ("INT", 2), ("QUIT", 3), ("ILL", 4), ("TRAP", 5), ("ABRT", 6), ("BUS", 7), ("FPE", 8),
   ("KILL", 9), ("USR1", 10), ("SEGV", 11), ("USR2", 12), ("PIPE", 13), ("ALRM", 14), ("TERM", 15),
   ("STKFLT", 16), ("CHLD", 17), ("CONT", 18), ("STOP", 19), ("TSTP", 20), ("TTIN", 21), ("TTOU", 22),
   ("URG", 23), ("XCPU", 24), ("XFSZ", 25), ("VTALRM", 26), ("PROF", 27), ("WINCH", 28), ("IO", 29),
   ("POLL", 29), ("PWR", 30), ("SYS", 31), ("RTMIN", 34), ("RTMAX", 64)]

def number? (bytes : Bytes) : Option Nat :=
  (Utf8.decode? bytes).bind String.toNat?

def signal? (bytes : Bytes) : Option Nat :=
  match number? bytes with
  | some number => some number
  | none => (Utf8.decode? bytes).bind fun name => signalNames.lookup name

def value (shell : Shell) : Part → Bytes
  | .text chars => Utf8.encode (String.ofList chars)
  | .self => Utf8.encode (toString selfNumber)
  | .parent => Utf8.encode (toString parentNumber)
  | .count => Utf8.encode (toString shell.args.length)
  | .status => Utf8.encode (toString shell.status)
  | .argument 0 => shell.zero
  | .argument (index + 1) => shell.args.getD index []
  | .all | .joined => [0x20].intercalate shell.args
  | .variable name => (shell.bindings.lookup (String.ofList name)).getD []

/-- The text of a word that is not split. -/
def text (shell : Shell) (word : Word) : Bytes :=
  word.flatMap fun (part, _) => shell.value part

def separates (byte : UInt8) : Bool :=
  byte = 0x20 || byte = 0x09 || byte = 0x0A

/-- Splits text at its blanks; `begun` is the word that goes on with it. The last word may go on, too. -/
def splitWords (begun : Option Bytes) : Bytes → List Bytes × Option Bytes
  | [] => ([], begun)
  | byte :: rest =>
    if separates byte then
      let (words, last) := splitWords none rest
      (begun.toList ++ words, last)
    else splitWords (some (begun.getD [] ++ [byte])) rest

/-- The words that a word becomes; `begun` is the word begun so far, if there is one. What a parameter without
quotes stands for is split at its blanks. -/
def fields (shell : Shell) (begun : Option Bytes) : Word → List Bytes
  | [] => begun.toList
  | (.all, true) :: rest =>
    match shell.args with
    | [] => fields shell begun rest
    | [only] => fields shell (some (begun.getD [] ++ only)) rest
    | first :: second :: others =>
      (begun.getD [] ++ first) :: (second :: others).dropLast ++
        fields shell (some ((second :: others).getLastD [])) rest
  | (.text chars, _) :: rest =>
    fields shell (some (begun.getD [] ++ Utf8.encode (String.ofList chars))) rest
  | (part, true) :: rest => fields shell (some (begun.getD [] ++ shell.value part)) rest
  | (part, false) :: rest =>
    let (words, last) := splitWords begun (shell.value part)
    words ++ fields shell last rest

def expand (shell : Shell) (words : List Word) : List Bytes :=
  words.flatMap (fields shell none)

/-- Text with the characters that a backslash and a letter stand for. -/
def unescape : Bytes → Bytes
  | 0x5C :: 0x6E :: rest => 0x0A :: unescape rest
  | 0x5C :: 0x74 :: rest => 0x09 :: unescape rest
  | 0x5C :: 0x5C :: rest => 0x5C :: unescape rest
  | byte :: rest => byte :: unescape rest
  | [] => []

/-- A format with one argument after another in its places, and the arguments that are left. -/
def format : Bytes → List Bytes → Bytes × List Bytes
  | 0x25 :: 0x25 :: rest, args =>
    let (text, left) := format rest args
    (0x25 :: text, left)
  | 0x25 :: _ :: rest, args =>
    let (text, left) := format rest args.tail
    (args.headD [] ++ text, left)
  | byte :: rest, args =>
    let (text, left) := format rest args
    (byte :: text, left)
  | [], args => ([], args)

/-- A format repeated until all arguments are used. -/
def formatAll (fuel : Nat) (pattern : Bytes) (args : List Bytes) : Bytes :=
  let (text, left) := format pattern args
  match fuel with
  | 0 => text
  | fuel + 1 =>
    if left.isEmpty || left.length = args.length then text else text ++ formatAll fuel pattern left

/-- Sends a command's output where it belongs. -/
def write (shell : Shell) (output : Output) (text : Bytes) : Shell :=
  match output with
  | .standard => { shell with printed := shell.printed ++ text }
  | .error => { shell with complained := shell.complained ++ text }
  | .file name append =>
    let path : Path := ⟨shell.text name⟩
    if path = .ofString "/dev/null" then shell else
    let made := if append && shell.tree.isFile path then .ok shell.tree else shell.tree.createFile path
    match made.bind (·.append path text) with
    | .ok tree => { shell with tree }
    | .error _ => { shell with status := 2 }

/-- A signal for the process that supervises the script, which hands on those that it listens to. -/
def signalParent (shell : Shell) (number : Nat) : Shell :=
  if shell.supervisorKilled.isSome then shell
  else if number = 2 then
    { shell with pending := shell.pending ++ [2], handedOn := shell.handedOn ++ [.interrupt] }
  else if number = 15 then
    { shell with pending := shell.pending ++ [15], handedOn := shell.handedOn ++ [.terminate] }
  else if number = 0 || Termination.harmless.contains (Int32.ofNat number) then shell
  else { shell with supervisorKilled := some number }

def kill (shell : Shell) (number : Nat) (target : Bytes) : Shell :=
  match number? target with
  | some process =>
    if process = selfNumber then { shell with pending := shell.pending ++ [number] }
    else if process = parentNumber then shell.signalParent number
    else { shell with status := 1 }
  | none => { shell with status := 2 }

/-- The signal and the process that the arguments of `kill` name. -/
def killArguments? : List Bytes → Option (Nat × Bytes)
  | [0x2D :: 0x73 :: [], name, target] => (signal? name).map (·, target)
  | [0x2D :: name, target] => (signal? name).map (·, target)
  | [target] => some (15, target)
  | _ => none

def trap (shell : Shell) (action : Bytes) (names : List Bytes) : Shell :=
  let plan := if action = [] then none else some (ShellScript.read (Utf8.decodeLossy action).toList)
  let numbers := names.filterMap signal?
  let others := shell.traps.filter fun entry => !numbers.contains entry.1
  { shell with
    traps := if action = [0x2D] then others else numbers.map (·, plan) ++ others }

def touch (shell : Shell) (names : List Bytes) : Shell :=
  names.foldl (fun shell name =>
    if shell.tree.contains ⟨name⟩ then shell
    else match shell.tree.createFile ⟨name⟩ with
      | .ok tree => { shell with tree }
      | .error _ => { shell with status := 1 }) shell

/-- The contents of files one after another, with a dash for the input, or else the input. -/
def cat (shell : Shell) (output : Output) (names : List Bytes) : Shell :=
  (if names.isEmpty then [[0x2D]] else names).foldl (fun shell name =>
    if name = [0x2D] then { shell.write output shell.input with input := [] }
    else match shell.tree.read ⟨name⟩ with
      | .ok contents => shell.write output contents
      | .error fault =>
        let complaint := s!"cat: {Utf8.decodeLossy name}: {fault.wording}\n"
        { shell with complained := shell.complained ++ Utf8.encode complaint, status := 1 }) shell

def makeDirectories (shell : Shell) (names : List Bytes) : Shell :=
  names.foldl (fun shell name =>
    match shell.tree.makeDirectory ⟨name⟩ with
    | .ok tree => { shell with tree }
    | .error _ => { shell with status := 1 }) shell

def assign (shell : Shell) (name : String) (value : Bytes) : Shell :=
  { shell with bindings := (name, value) :: shell.bindings }

/-- Gives each of these variables a word of a line, the last one all that is left. -/
def distribute (shell : Shell) (line : Bytes) : List Bytes → Shell
  | [] => shell
  | [name] =>
    let rest := line.dropWhile separates
    shell.assign (Utf8.decodeLossy name) (rest.reverse.dropWhile separates).reverse
  | name :: names =>
    let rest := line.dropWhile separates
    distribute (shell.assign (Utf8.decodeLossy name) (rest.takeWhile (!separates ·)))
      (rest.dropWhile (!separates ·)) names

/-- Reads a line of the input into variables. -/
def readLine (shell : Shell) (names : List Bytes) : Shell :=
  let line := shell.input.takeWhile (· ≠ 0x0A)
  let after := { shell with
    input := shell.input.drop (line.length + 1)
    status := if line.length < shell.input.length then 0 else 1 }
  after.distribute line names

/-- Runs a command that is no statement of the shell; `none` if there is no such command. -/
def utility? (shell : Shell) (output : Output) (name : String) (args : List Bytes) : Option Shell :=
  let shell := { shell with status := 0 }
  match name with
  | "true" | ":" => some shell
  | "sleep" => some { shell with status := if args.isEmpty then 1 else 0 }
  | "false" => some { shell with status := 1 }
  | "echo" =>
    some (match args with
      | [0x2D, 0x6E] :: args => shell.write output (unescape ([0x20].intercalate args))
      | _ => shell.write output (unescape ([0x20].intercalate args) ++ [0x0A]))
  | "printf" => some (shell.write output (formatAll args.length (unescape (args.headD [])) args.tail))
  | "touch" => some (if args.isEmpty then { shell with status := 1 } else shell.touch args)
  | "mkdir" => some (if args.isEmpty then { shell with status := 1 } else shell.makeDirectories args)
  | "cat" => some (shell.cat output args)
  | "shift" => some { shell with args := shell.args.tail }
  | "read" => some (shell.readLine args)
  | _ => none

def exitWith (code : Nat) : Ending :=
  .exited (code % 256)

/-- How a script goes on: it has ended, or it goes on from here. -/
abbrev Course := Except (Ending × Shell) Shell

mutual

/-- Deals with the signals that have come. -/
def deliver : Nat → Shell → Course
  | 0, shell => .error (exitWith 0, shell)
  | fuel + 1, shell =>
    match shell.pending with
    | [] => .ok shell
    | number :: rest =>
      let shell := { shell with pending := rest }
      match shell.traps.lookup number with
      | some none => deliver fuel shell
      | some (some plan) =>
        if number = 9 then .error (.killed 9, shell)
        else do
          let after ← run fuel plan shell
          deliver fuel { after with status := shell.status }
      | none =>
        if number = 0 || Termination.harmless.contains (Int32.ofNat number) then deliver fuel shell
        else .error (.killed number, shell)

def run : Nat → List Statement → Shell → Course
  | 0, _, shell => .error (exitWith 0, shell)
  | _ + 1, [], shell => .ok shell
  | fuel + 1, .loop condition body :: rest, shell => do
    let tested ← run fuel condition shell
    if tested.status = 0 then
      let after ← run fuel body tested
      run fuel (.loop condition body :: rest) after
    else run fuel rest { tested with status := 0 }
  | fuel + 1, .onlyIf succeeded :: rest, shell =>
    run fuel (if (shell.status = 0) = succeeded then rest else rest.drop 1) shell
  | fuel + 1, .command simple :: rest, shell => do
    let after ← match simple.words with
      | [word] =>
        match ShellScript.assignment? word with
        | some (name, value) => .ok { shell.assign name (shell.text value) with status := 0 }
        | none => obey fuel (shell.expand simple.words) simple.output shell
      | words => obey fuel (shell.expand words) simple.output shell
    let after := if simple.quiet then { after with complained := shell.complained } else after
    let after ← deliver fuel after
    run fuel rest after

def obey : Nat → List Bytes → Output → Shell → Course
  | 0, _, _, shell => .error (exitWith 0, shell)
  | _ + 1, [], output, shell => .ok (shell.write output [])
  | fuel + 1, command :: args, output, shell =>
    let name := Utf8.decodeLossy command
    match name with
    | "exit" =>
      match args.head? with
      | none => .error (exitWith shell.status, shell)
      | some code => .error (exitWith ((number? code).getD 2), shell)
    | "exec" => if args.isEmpty then .ok shell else do
      let replaced := { shell with traps := shell.traps.filter (·.2.isNone) }
      let after ← obey fuel args output replaced
      let after ← deliver fuel after
      .error (exitWith after.status, after)
    | "trap" => .ok { shell.trap (args.headD []) args.tail with status := 0 }
    | "kill" =>
      match killArguments? args with
      | some (number, target) => .ok ({ shell with status := 0 }.kill number target)
      | none => .ok { shell with status := 2 }
    | _ =>
      match shell.utility? output name args with
      | some after => .ok after
      | none => .ok { shell with status := 127 }

end

/-- How many steps a script may take. -/
def stepLimit : Nat := 4000

def runScript (script : List Char) (shell : Shell) : Ending × Shell :=
  match deliver stepLimit shell >>= run stepLimit (ShellScript.read script) with
  | .error ended => ended
  | .ok shell => (exitWith shell.status, shell)

end Shell
end JarLauncher.Rehearsal
