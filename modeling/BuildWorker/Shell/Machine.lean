import BuildWorker.Shell.Command
import BuildWorker.Shell.Variables
import BuildWorker.Files.Tree
import BuildWorker.Text.Utf8
/-!
# The state of a running shell

A running script is a shell process and the world around it.

* The *shell state* belongs to one process: variables, functions, positional
  parameters, working directory, the status of the last command, its options, and its
  open descriptors.  A subshell or background job starts from a copy, and nothing it
  changes there comes back.
* The *world* is shared: the clock, the file tree, everything written to the watched
  output with the time it was written, the buffers that capture output for pipes and
  command substitutions, and the background jobs.

Time passes only when something sleeps: every other command takes no time.  A run has a
*horizon*, the time after which nothing it does can matter, and a budget of steps; a
run that reaches either stops there, as a process that is still running.

Commands end normally or by an *interrupt*: `exit`, `return`, `break` and `continue`
unwind to the construct that handles them, a fatal signal ends the process, and `halt`
stops everything at the horizon.
-/

namespace BuildWorker.Shell

/-- Where a descriptor's bytes go. -/
inductive Sink where
  /-- The watched output of the run. -/
  | watched
  /-- A capture buffer, by its level. -/
  | capture (level : Nat)
  /-- The end of a file. -/
  | file (path : List String)
  | discard
  /-- The input of a coprocess, by its process id. -/
  | coprocess (pid : Nat)
  /-- A closed descriptor: writing to it fails. -/
  | closed
  deriving DecidableEq, Repr, Inhabited

/-- An open descriptor beyond standard input: somewhere to write, bytes left to read, or
the output of a coprocess that has not run yet. -/
inductive Descriptor where
  | sink (s : Sink)
  | source (bytes : List UInt8)
  | pending (pid : Nat)
  deriving DecidableEq, Repr, Inhabited

/-- A coprocess: the command, the input written to it so far, and its descriptors. -/
structure Coprocess where
  name : String
  body : Command
  pid : Nat
  readFd : Nat
  writeFd : Nat
  input : List UInt8 := []
  deriving Repr, Inhabited

/-- The options of `set -o` that are on when a shell starts. -/
def defaultSetOptions : List String :=
  ["braceexpand", "hashall", "interactive-comments"]

/-- One process's own state. -/
structure ShellState where
  vars : List (String × Variable) := []
  functions : List (String × Command) := []
  /-- Where each function was defined, which the messages of its calls start with. -/
  functionSources : List (String × String) := []
  positional : List String := []
  /-- `$0`. -/
  scriptName : String := "bash"
  /-- `$?`. -/
  status : Nat := 0
  cwd : List String := []
  /-- `$$`: the process id of the shell the run started. -/
  topPid : Nat := 1000
  /-- This process's id. -/
  pid : Nat := 1000
  /-- The background job this process belongs to, or 0. -/
  job : Nat := 0
  /-- `$!`. -/
  lastJob : Option Nat := none
  stdin : List UInt8 := []
  /-- Whether standard input is a regular file (its size known in advance). -/
  stdinIsFile : Bool := false
  stdout : Sink := .watched
  stderr : Sink := .watched
  /-- Descriptors from 3 up, by number. -/
  fds : List (Nat × Descriptor) := []
  /-- Whether standard input is closed. -/
  stdinClosed : Bool := false
  loopDepth : Nat := 0
  /-- Saved values of the variables made local, one list per function call. -/
  locals : List (List (String × Option Variable)) := []
  /-- The names of the functions being run, innermost first. -/
  callStack : List String := []
  /-- The line of the command being run, for messages. -/
  line : Nat := 1
  /-- The name messages start with: the shell, or the script. -/
  messagePrefix : String := "bash"
  /-- Where reading errors of the main text say they come from: `-c` for text given on
  the command line, or the script's name (and then it is not repeated). -/
  sourceName : String := "-c"
  /-- With `set -e`, a command that fails ends the shell. -/
  errexit : Bool := false
  /-- With `set -u`, expanding a variable that is not set is an error. -/
  nounset : Bool := false
  /-- With `set -x`, each simple command is written to standard error before it runs. -/
  xtrace : Bool := false
  /-- With `set -o pipefail`, a pipeline fails when any of its stages does. -/
  pipefail : Bool := false
  /-- The other options of `set -o` that are on. -/
  setOptions : List String := defaultSetOptions
  /-- The options of `shopt` that are on. -/
  shopts : List String := []
  /-- Whether the command runs as a condition (of `if`, `while`, `until`, `&&`, `||` or
  `!`), where a failure does not end the shell under `set -e`. -/
  tested : Bool := false
  /-- How many command substitutions deep the command is, for the marks of `set -x`. -/
  traceDepth : Nat := 1
  /-- `$BASH_SUBSHELL`: how many subshells deep the process is. -/
  subshellDepth : Nat := 0
  /-- The actions of `trap`, by condition: `EXIT` or a signal's name. -/
  traps : List (String × String) := []
  /-- Signals with a trap that arrived while a command ran, to be handled after it. -/
  pendingSignals : List Nat := []
  /-- `$_`: the last argument of the last simple command. -/
  lastArg : String := ""
  /-- The directory stack of `pushd`, without the working directory on top. -/
  dirStack : List String := []
  /-- Where `getopts` stands: the value of `OPTIND` it left, and how far it has read
  into that word of bundled options. -/
  optionCursor : Nat × Nat := (1, 0)
  /-- The aliases defined, by name. -/
  aliases : List (String × String) := []
  /-- The statuses of the stages of the last pipeline. -/
  pipeStatus : List Nat := [0]
  coprocs : List Coprocess := []
  /-- The next descriptor `{name}>` hands out. -/
  nextFreeFd : Nat := 10
  /-- The name of the command being run, for messages of arithmetic. -/
  commandName : String := ""
  /-- How many files `source` is running, innermost counted, where `return` ends one. -/
  sourceDepth : Nat := 0
  /-- Whether the commands came from the command line (`bash -c`), which `$-` shows. -/
  commandMode : Bool := false
  /-- The file creation mask of `umask`. -/
  umask : Nat := 18
  /-- Whether writing to standard output failed, because it is closed, since the builtin
  being run started. -/
  outputFailed : Bool := false
  deriving Repr, Inhabited

/-- A job started in the background: its process, the process that started it, when
and how it ended (nothing if it runs past the horizon), and whether it keeps the watched
output open. -/
structure BackgroundJob where
  pid : Nat
  parent : Nat
  finish : Option (Nat × Nat)
  holdsOutput : Bool
  deriving DecidableEq, Repr, Inhabited

/-- Bytes written to the watched output: when, by which job, what. -/
structure Written where
  time : Nat
  job : Nat
  bytes : List UInt8
  deriving DecidableEq, Repr, Inhabited

/-- The shared world. -/
structure World where
  /-- Microseconds since the run started. -/
  clock : Nat := 0
  /-- When the run started, in seconds since 1970. -/
  epoch : Int := 1767225600
  horizon : Nat
  budget : Nat
  files : FileTree
  written : Array Written := #[]
  captures : Array (List UInt8) := #[]
  jobs : List BackgroundJob := []
  nextPid : Nat := 1001
  /-- A fatal signal sent to the top shell by one of its subshells, and when. -/
  topSignal : Option (Nat × Nat) := none
  /-- How many process substitutions have been made, for their file names. -/
  pipesMade : Nat := 0
  /-- The process substitutions `>(list)` waiting for what the command writes to their
  file: the file and the list. -/
  pendingOutputs : List (List String × String) := []
  deriving Repr, Inhabited

/-- A shell process in its world. -/
structure Machine where
  shell : ShellState
  world : World
  deriving Repr, Inhabited

/-- Why a command ended early. -/
inductive Interrupt where
  | exit
  | leave
  | breakLoop (n : Nat)
  | continueLoop (n : Nat)
  | killed (signal : Nat)
  /-- The current complete command is abandoned after an expansion error. -/
  | abort
  | halt
  deriving DecidableEq, Repr, Inhabited

/-- Running shell code. -/
abbrev ShellM := ExceptT Interrupt (StateM Machine)

/-! ## Access -/

def getShell : ShellM ShellState := do pure (← get).shell

def modifyShell (f : ShellState → ShellState) : ShellM Unit :=
  modify fun m => { m with shell := f m.shell }

def getWorld : ShellM World := do pure (← get).world

def modifyWorld (f : World → World) : ShellM Unit :=
  modify fun m => { m with world := f m.world }

/-- Sets the status of the last command. -/
def setStatus (n : Nat) : ShellM Unit := modifyShell fun s => { s with status := n % 256 }

def getStatus : ShellM Nat := do pure (← getShell).status

/-- Uses one step of the budget; an exhausted budget stops the run. -/
def tick : ShellM Unit := do
  let w ← getWorld
  if w.budget == 0 then throw .halt
  modifyWorld fun w => { w with budget := w.budget - 1 }

/-- Lets time pass; passing the horizon stops the run there. -/
def sleepFor (micros : Nat) : ShellM Unit := do
  let w ← getWorld
  if w.clock + micros ≥ w.horizon then
    modifyWorld fun w => { w with clock := w.horizon }
    throw .halt
  modifyWorld fun w => { w with clock := w.clock + micros }

/-- A fresh process id. -/
def freshPid : ShellM Nat := do
  let w ← getWorld
  modifyWorld fun w => { w with nextPid := w.nextPid + 1 }
  pure w.nextPid

/-- Runs code with a value saved and put back after it, however it ends. -/
def withRestore {α : Type} (act : ShellM α) (restore : ShellM Unit) : ShellM α := do
  let r ← tryCatch act fun e => do
    restore
    throw e
  restore
  pure r

/-! ## Options -/

/-- Whether an option of `shopt` is on. -/
def ShellState.shopt (s : ShellState) (name : String) : Bool := s.shopts.contains name

/-- Whether an option of `set -o` kept in the list is on. -/
def ShellState.option (s : ShellState) (name : String) : Bool := s.setOptions.contains name

/-! ## Output -/

/-- Sends bytes to a sink. -/
def writeTo (sink : Sink) (bytes : List UInt8) : ShellM Unit := do
  if bytes.isEmpty then return
  match sink with
  | .watched =>
      let s ← getShell
      modifyWorld fun w => { w with written := w.written.push ⟨w.clock, s.job, reportScratch bytes⟩ }
  | .capture k =>
      modifyWorld fun w =>
        { w with captures := w.captures.modify k (· ++ bytes) }
  | .file path =>
      modifyWorld fun w =>
        match w.files.write path bytes true with
        | .ok t => { w with files := t }
        | .error _ => w
  | .discard | .closed => pure ()
  | .coprocess pid =>
      modifyShell fun s =>
        { s with coprocs := s.coprocs.map fun c => if c.pid == pid then { c with input := c.input ++ bytes } else c }

/-- Writes to standard output, noting when it is closed. -/
def writeOut (bytes : List UInt8) : ShellM Unit := do
  let s ← getShell
  if s.stdout == .closed && !bytes.isEmpty then modifyShell fun s => { s with outputFailed := true }
  writeTo s.stdout bytes

/-- Writes to standard error. -/
def writeErr (bytes : List UInt8) : ShellM Unit := do writeTo (← getShell).stderr bytes

/-- Writes text to standard output. -/
def printOut (text : String) : ShellM Unit := writeOut (Text.encode text)

/-- The start of a diagnostic: the shell's name and the line. -/
def ShellState.messageStart (s : ShellState) : String :=
  s.messagePrefix ++ ": line " ++ toString s.line ++ ": "

/-- Writes a diagnostic line to standard error, after the shell's name and line. -/
def complain (text : String) : ShellM Unit := do
  let s ← getShell
  writeErr (Text.encode (s.messageStart ++ text ++ "\n"))

/-- Opens a capture buffer and gives its level. -/
def openCapture : ShellM Nat := do
  let w ← getWorld
  modifyWorld fun w => { w with captures := w.captures.push [] }
  pure w.captures.size

/-- Closes the newest capture buffer and gives what it holds. -/
def closeCapture : ShellM (List UInt8) := do
  let w ← getWorld
  let bytes := w.captures.back?.getD []
  modifyWorld fun w => { w with captures := w.captures.pop }
  pure bytes

/-! ## Variables -/

/-- Follows name references from a name to the variable it stands for, at most eight
steps. -/
def ShellState.resolveName (s : ShellState) (name : String) : String :=
  let rec go : Nat → String → String
    | 0, n => n
    | fuel + 1, n =>
        match s.vars.lookup n with
        | some v =>
            if v.nameref then
              match v.text? with
              | some target => if target.isEmpty then n else go fuel target
              | none => n
            else n
        | none => n
  go 8 name

/-- The arrays the shell keeps up to date itself: `PIPESTATUS`, the statuses of the
stages of the last pipeline, and `FUNCNAME`, the functions being run, innermost first. -/
def ShellState.dynamicVar (s : ShellState) (name : String) : Option Variable :=
  match name with
  | "PIPESTATUS" => some { value := .indexed (s.pipeStatus.zipIdx.map fun (st, i) => (i, toString st)) }
  | "FUNCNAME" =>
      if s.callStack.isEmpty then none
      else some { value := .indexed (s.callStack.zipIdx.map fun (f, i) => (i, f)) }
  | _ => none

/-- The variable a name stands for, after name references. -/
def ShellState.findVar (s : ShellState) (name : String) : Option Variable :=
  match s.vars.lookup (s.resolveName name) with
  | some v => some v
  | none => s.dynamicVar name

/-- A variable's text, if it is set. -/
def lookupVar (s : ShellState) (name : String) : Option String :=
  (s.findVar name).bind (·.text?)

/-- Replaces or adds a variable record under a name, keeping the order of the others. -/
def ShellState.putVar (s : ShellState) (name : String) (v : Variable) : ShellState :=
  if s.vars.any (·.1 == name) then
    { s with vars := s.vars.map fun (n, old) => if n == name then (n, v) else (n, old) }
  else { s with vars := s.vars ++ [(name, v)] }

/-- Changes the record of a variable (after name references), creating it first. -/
def ShellState.updateVar (s : ShellState) (name : String) (f : Variable → Variable) : ShellState :=
  let n := s.resolveName name
  s.putVar n (f ((s.vars.lookup n).getD {}))

/-- Applies a variable's case attributes to a text. -/
def Variable.fold (v : Variable) (text : String) : String :=
  if v.lower then Text.lowerText text else if v.upper then Text.upperText text else text

/-- A variable with its text set, attributes kept: an array's element 0 is set. -/
def Variable.withText (v : Variable) (value : String) : Variable :=
  let value := v.fold value
  match v.value with
  | .indexed items => { v with value := .indexed (setIndexed items 0 value) }
  | .assoc items => { v with value := .assoc (setAssoc items "0" value) }
  | _ => { v with value := .scalar value }

/-- Sets a variable's text, keeping its attributes; an array's element 0 is set. -/
def ShellState.setVar (s : ShellState) (name value : String) : ShellState :=
  s.updateVar name (·.withText value)

/-- Marks a variable exported, creating it without a value if needed. -/
def ShellState.exportVar (s : ShellState) (name : String) : ShellState :=
  s.updateVar name fun v => { v with exported := true }

/-- Removes a variable. -/
def ShellState.unsetVar (s : ShellState) (name : String) : ShellState :=
  { s with vars := s.vars.filter (·.1 != name) }

/-- Puts a variable back as it was: set to a saved value, or unset. -/
def ShellState.restoreVar (s : ShellState) (name : String) (saved : Option Variable) : ShellState :=
  match saved with
  | some v => s.putVar name v
  | none => s.unsetVar name

def setVar (name value : String) : ShellM Unit := modifyShell (·.setVar name value)

/-! ## Array elements -/

/-- Where in an array an element is: an index (negative ones count back from the end)
or a key of an associative array. -/
inductive Slot where
  | index (i : Int)
  | key (k : String)
  deriving DecidableEq, Repr, Inhabited

/-- The index a slot names in an indexed array, counting a negative one back from one
past the highest index; none when that is before the start. -/
def resolveIndex (items : List (Nat × String)) (i : Int) : Option Nat :=
  if i ≥ 0 then some i.toNat
  else
    let j := (nextIndex items : Int) + i
    if j < 0 then none else some j.toNat

/-- The element of a variable at a slot. -/
def Variable.element? (v : Variable) (slot : Slot) : Option String :=
  match v.value, slot with
  | .indexed items, .index i => (resolveIndex items i).bind fun j => items.lookup j
  | .assoc items, .key k => items.lookup k
  | .assoc items, .index i => items.lookup (toString i)
  | .scalar s, .index i => if i == 0 then some s else none
  | _, _ => none

/-- Whether a slot is an index counted back past the start of a variable that is not an
associative array: a text or an unset variable has no elements to count back over. -/
def Variable.badIndex (v : Option Variable) (slot : Slot) : Bool :=
  match slot with
  | .key _ => false
  | .index i =>
      i < 0 &&
        match v.map Variable.value with
        | some (VarValue.indexed items) => (resolveIndex items i).isNone
        | some (VarValue.assoc _) => false
        | _ => true

/-- Sets the element at a slot, making the variable an indexed array when it is not an
array yet (a text becomes its element 0).  `none` when a negative index falls before the
start. -/
def Variable.setElement (v : Variable) (slot : Slot) (value : String) : Option Variable :=
  let value := v.fold value
  match v.value, slot with
  | .assoc items, .key k => some { v with value := .assoc (setAssoc items k value) }
  | .assoc items, .index i => some { v with value := .assoc (setAssoc items (toString i) value) }
  | .indexed items, .index i =>
      (resolveIndex items i).map fun j => { v with value := .indexed (setIndexed items j value) }
  | .indexed items, .key k => some { v with value := .indexed (setIndexed items (k.toNat?.getD 0) value) }
  | .scalar s, .index i =>
      (resolveIndex [(0, s)] i).map fun j => { v with value := .indexed (setIndexed [(0, s)] j value) }
  | .scalar s, .key k => some { v with value := .indexed (setIndexed [(0, s)] (k.toNat?.getD 0) value) }
  | .none, .index i =>
      (resolveIndex [] i).map fun j => { v with value := .indexed [(j, value)] }
  | .none, .key k => some { v with value := .indexed [(k.toNat?.getD 0, value)] }

/-- Removes the element at a slot. -/
def Variable.unsetElement (v : Variable) (slot : Slot) : Variable :=
  match v.value, slot with
  | .indexed items, .index i =>
      match resolveIndex items i with
      | some j => { v with value := .indexed (items.filter (·.1 != j)) }
      | none => v
  | .assoc items, .key k => { v with value := .assoc (items.filter (·.1 != k)) }
  | .assoc items, .index i => { v with value := .assoc (items.filter (·.1 != toString i)) }
  | .scalar _, .index i => if i == 0 || i == -1 then { v with value := .none } else v
  | _, _ => v

/-- The element of a named variable at a slot. -/
def ShellState.element? (s : ShellState) (name : String) (slot : Slot) : Option String :=
  (s.findVar name).bind (·.element? slot)

/-- Whether a name is an associative array, after name references. -/
def ShellState.isAssoc (s : ShellState) (name : String) : Bool :=
  match s.findVar name with
  | some v => v.isAssoc
  | none => false

/-- The variables passed to commands, with their texts. -/
def ShellState.environment (s : ShellState) : List (String × String) :=
  (s.vars.filter (·.2.exported)).filterMap fun (n, v) =>
    match v.value with
    | .scalar t => some (n, t)
    | _ => none

/-- The text of the working directory. -/
def ShellState.cwdText (s : ShellState) : String := hostPathText s.cwd

/-- The letters of `$-`: the options that are on, in the order of `set`'s letters, and
`c` when the commands came from the command line. -/
def ShellState.flagLetters (s : ShellState) : String :=
  let letters : List (Char × Bool) :=
    [('a', s.option "allexport"), ('b', s.option "notify"), ('e', s.errexit),
      ('f', s.option "noglob"), ('h', s.option "hashall"), ('k', s.option "keyword"),
      ('m', s.option "monitor"), ('n', s.option "noexec"), ('p', s.option "privileged"),
      ('t', s.option "onecmd"), ('u', s.nounset), ('v', s.option "verbose"), ('x', s.xtrace),
      ('B', s.option "braceexpand"), ('C', s.option "noclobber"), ('E', s.option "errtrace"),
      ('H', s.option "histexpand"), ('P', s.option "physical"), ('T', s.option "functrace")]
  String.ofList ((letters.filter (·.2)).map (·.1)) ++ (if s.commandMode then "c" else "")

/-- The value of a plain parameter: a special one, a positional one, or a variable. -/
def ShellState.param (s : ShellState) (name : String) : Option String :=
  match name with
  | "?" => some (toString s.status)
  | "$" => some (toString s.topPid)
  | "#" => some (toString s.positional.length)
  | "0" => some s.scriptName
  | "@" | "*" => some (" ".intercalate s.positional)
  | "!" => s.lastJob.map toString
  | "-" => some s.flagLetters
  | "_" => some s.lastArg
  | _ =>
      if name.all Char.isDigit && !name.isEmpty then
        s.positional[(name.toNat?.getD 0) - 1]?
      else
        match s.findVar name with
        | some v => v.text?
        | none =>
            match name with
            | "PWD" => some s.cwdText
            | "BASHPID" => some (toString s.pid)
            | "BASH_SUBSHELL" => some (toString s.subshellDepth)
            | "LINENO" => some (toString s.line)
            | "PPID" => some "999"
            | "UID" | "EUID" => some "0"
            | "SHLVL" => some "1"
            | "BASH" => some "/usr/bin/bash"
            | "BASH_VERSION" => some "5.2.21(1)-release"
            | "OPTIND" => some "1"
            | "IFS" => none
            | "HOSTTYPE" => some "x86_64"
            | "OSTYPE" => some "linux-gnu"
            | "MACHTYPE" => some "x86_64-pc-linux-gnu"
            | "SECONDS" => some "0"
            | "FUNCNAME" => s.callStack.head?
            | _ => none

/-- The characters that split fields: `$IFS`, or space, tab and line feed when it is not
set. -/
def ShellState.ifs (s : ShellState) : String := (lookupVar s "IFS").getD " \t\n"

end BuildWorker.Shell
