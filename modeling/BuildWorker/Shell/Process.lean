import BuildWorker.Shell.Builtin.Input
/-!
# Processes, descriptors and tracing

What the evaluator of commands needs around it:

* the open descriptors of a process, read and set one number at a time: standard input
  (bytes left to read, or closed), standard output and standard error (sinks), and the
  descriptors from 3 up; a redirection saves the descriptors it changes and puts them
  back after its command;
* subshells and background jobs, which run in a copy of the shell state;
* the rules of `set -e`: a failure ends the shell except where the command is a
  condition;
* the lines of `set -x`: each word quoted so that the shell would read it back, after
  the first character of `$PS4` repeated once per level of command substitution.
-/

namespace BuildWorker.Shell

open Text

/-! ## Descriptors -/

/-- The descriptor open at a number. -/
def ShellState.descriptor? (s : ShellState) (n : Nat) : Option Descriptor :=
  if n == 0 then (if s.stdinClosed then none else some (.source s.stdin))
  else if n == 1 then (if s.stdout == .closed then none else some (.sink s.stdout))
  else if n == 2 then (if s.stderr == .closed then none else some (.sink s.stderr))
  else s.fds.lookup n

/-- Opens (or with `none` closes) a descriptor at a number.  Standard input takes only
bytes to read; standard output and error take only sinks, and are dropped otherwise. -/
def ShellState.withDescriptor (s : ShellState) (n : Nat) (d : Option Descriptor) : ShellState :=
  if n == 0 then
    match d with
    | some (.source b) => { s with stdin := b, stdinClosed := false }
    | _ => { s with stdin := [], stdinClosed := true, stdinIsFile := false }
  else if n == 1 then
    match d with
    | some (.sink k) => { s with stdout := k }
    | _ => { s with stdout := .closed }
  else if n == 2 then
    match d with
    | some (.sink k) => { s with stderr := k }
    | _ => { s with stderr := .closed }
  else
    let others := s.fds.filter (·.1 != n)
    match d with
    | some x => { s with fds := others ++ [(n, x)] }
    | none => { s with fds := others }

/-- A descriptor as it was before a redirection changed it; standard input also keeps
whether it was a regular file. -/
structure SavedDescriptor where
  fd : Nat
  descriptor : Option Descriptor
  isFile : Bool
  deriving Repr, Inhabited

/-- Saves the descriptor at a number. -/
def saveDescriptor (n : Nat) : ShellM SavedDescriptor := do
  let s ← getShell
  pure { fd := n, descriptor := s.descriptor? n, isFile := s.stdinIsFile }

/-- Puts saved descriptors back, the first saved last, so that each number gets the
state it had before the first change. -/
def restoreDescriptors (saved : List SavedDescriptor) : ShellM Unit :=
  for d in saved.reverse do
    modifyShell fun s =>
      let s := s.withDescriptor d.fd d.descriptor
      if d.fd == 0 then { s with stdinIsFile := d.isFile } else s

/-- The lowest number from 10 up with no descriptor open, for `{name}>`. -/
def ShellState.freeDescriptor (s : ShellState) : Nat :=
  let used := s.fds.map (·.1)
  ((List.range (used.length + 1)).map (· + 10)).find? (!used.contains ·) |>.getD 10

/-! ## Subshells and background jobs -/

/-- Runs an action as a subshell: a copy of the shell state, put back afterwards.  Gives
its status, or nothing when it is still running at the horizon.  A fatal signal that a
subshell sent to the top shell ends the top shell when the subshell returns to it. -/
def inSubshell (act : ShellM Unit) : ShellM (Option Nat) := do
  let saved ← getShell
  let pid ← freshPid
  modifyShell fun s => { s with pid }
  let outcome ← tryCatch (do act; pure (some (← getStatus))) fun
    | .halt => pure none
    | .killed sig => pure (some (128 + sig))
    | _ => do pure (some (← getStatus))
  modify fun m => { m with shell := { saved with status := outcome.getD saved.status } }
  if saved.pid == saved.topPid then
    match (← getWorld).topSignal with
    | some (sig, _) => throw (.killed sig)
    | none => pure ()
  pure outcome

/-- Starts an action as a background job and goes on at once: the job runs now in a copy
of the shell with half the step budget left, and the clock goes back to when it
started. -/
def spawnBackground (act : ShellM Unit) : ShellM Unit := do
  let saved ← getShell
  let w0 ← getWorld
  let pid ← freshPid
  let share := w0.budget / 2
  modifyWorld fun w => { w with budget := share }
  modifyShell fun s =>
    { s with pid, job := pid, stdin := [], stdinIsFile := false, subshellDepth := s.subshellDepth + 1 }
  let outcome ← tryCatch (do act; pure (some (← getStatus))) fun
    | .halt => pure none
    | .killed sig => pure (some (128 + sig))
    | _ => do pure (some (← getStatus))
  let w ← getWorld
  let finish := outcome.map fun st => (w.clock, st)
  let holds := saved.stdout == .watched || saved.stderr == .watched
  modifyWorld fun w =>
    { w with clock := w0.clock, budget := w0.budget - share + w.budget,
             jobs := w.jobs ++ [⟨pid, saved.pid, finish, holds⟩] }
  modify fun m => { m with shell := { saved with lastJob := some pid, status := 0 } }

/-! ## set -e -/

/-- Runs a command as a condition, where its failure does not end the shell under
`set -e`. -/
def asCondition (act : ShellM Unit) : ShellM Unit := do
  let before := (← getShell).tested
  modifyShell fun s => { s with tested := true }
  withRestore act (modifyShell fun s => { s with tested := before })

/-- Under `set -e`, ends the shell after a command that failed outside a condition. -/
def failFast : ShellM Unit := do
  let s ← getShell
  if s.errexit && !s.tested && s.status != 0 then throw .exit

/-! ## set -x -/

/-- Whether a word needs quotes to be read back as one word. -/
def hasShellMeta (w : String) : Bool :=
  let cs := w.toList
  (cs.zipIdx.any fun (c, i) =>
    " \t\n'\"\\|&;()<>!\x7b\x7d*[?]^$".toList.contains c || c == '\x60' ||
    (c == '~' && (i == 0 || cs[i - 1]? == some '=' || cs[i - 1]? == some ':'))) ||
  cs.head? == some '#'

/-- Whether a word holds control characters, which are written as escapes. -/
def hasControl (w : String) : Bool := w.any fun c => c.toNat < 32 || c.toNat == 127

/-- A character written for `$'...'`. -/
def escapeForTrace (c : Char) : String :=
  match c.toNat with
  | 7 => "\\a"
  | 8 => "\\b"
  | 9 => "\\t"
  | 10 => "\\n"
  | 11 => "\\v"
  | 12 => "\\f"
  | 13 => "\\r"
  | 27 => "\\E"
  | 39 => "\\'"
  | 92 => "\\\\"
  | n =>
      if n < 32 || n == 127 then
        let digits := Nat.toDigits 8 n
        "\\" ++ String.ofList (List.replicate (3 - digits.length) '0' ++ digits)
      else c.toString

/-- A word as `set -x` writes it: in single quotes when it has shell characters, as
`$'...'` when it has control characters, else as it is; the empty word is `''`. -/
def traceWord (w : String) : String :=
  if w.isEmpty then "''"
  else if hasControl w then "$'" ++ String.join (w.toList.map escapeForTrace) ++ "'"
  else if hasShellMeta w then
    "'" ++ String.join (w.toList.map fun c => if c == '\'' then "'\\''" else c.toString) ++ "'"
  else w

/-- A value of an assignment as `set -x` writes it. -/
def traceValue (v : String) : String :=
  if v.isEmpty then "" else traceWord v

/-- The start of a line of `set -x`: the first character of `$PS4` once per level, then
the rest of it. -/
def ShellState.tracePrefix (s : ShellState) : String :=
  let ps4 := (lookupVar s "PS4").getD "+ "
  match ps4.toList with
  | [] => ""
  | c :: rest => String.ofList (List.replicate s.traceDepth c ++ rest)

/-- Writes a line of `set -x` to standard error. -/
def trace (text : String) : ShellM Unit := do
  let s ← getShell
  if s.xtrace then writeErr (encode (s.tracePrefix ++ text ++ "\n"))

/-! ## Names of commands -/

/-- The builtins. -/
def builtinNames : List String :=
  [":", ".", "[", "alias", "bg", "bind", "break", "builtin", "caller", "cd", "command",
    "compgen", "complete", "compopt", "continue", "declare", "dirs", "disown", "echo",
    "enable", "eval", "exec", "exit", "export", "false", "fc", "fg", "getopts", "hash",
    "help", "history", "jobs", "kill", "let", "local", "logout", "mapfile", "popd", "printf",
    "pushd", "pwd", "read", "readarray", "readonly", "return", "set", "shift", "shopt",
    "source", "suspend", "test", "times", "trap", "true", "type", "typeset", "ulimit",
    "umask", "unalias", "unset", "wait"]

/-- The reserved words. -/
def keywordNames : List String :=
  ["if", "then", "else", "elif", "fi", "case", "esac", "for", "select", "while", "until",
    "do", "done", "in", "function", "time", "\x7b", "\x7d", "!", "[[", "]]", "coproc"]

/-! ## select -/

/-- The menu of `select`: the items numbered, in as many columns as fit in 80, filled
column by column, padded with tabs and spaces. -/
def selectMenu (items : List String) : String :=
  let count := items.length
  let indexWidth := (toString count).length
  let longest := items.foldl (fun m i => max m i.length) 0
  let cell := longest + indexWidth + 2
  let cols := if cell == 0 then 1 else max 1 (80 / cell)
  let rows := if count == 0 then 1 else count / cols + (if count % cols != 0 then 1 else 0)
  let cols := if count == 0 then 1 else count / rows + (if count % rows != 0 then 1 else 0)
  let (rows, cols) := if rows == 1 then (cols, 1) else (rows, cols)
  let entry (k : Nat) : String × Nat :=
    let n := toString (k + 1)
    let text := String.ofList (List.replicate (indexWidth - n.length) ' ') ++ n ++ ") " ++ items.getD k ""
    (text, indexWidth + 2 + (items.getD k "").length)
  let indent (from_ target : Nat) : String :=
    let rec go : Nat → Nat → String
      | 0, _ => ""
      | fuel + 1, pos =>
          if pos ≥ target then ""
          else if target / 8 > pos / 8 then "\t" ++ go fuel (pos + 8 - pos % 8)
          else " " ++ go fuel (pos + 1)
    go (target + 1) from_
  let row (r : Nat) : String :=
    let members := (List.range cols).map (fun c => r + c * rows) |>.filter (· < count)
    let texts := members.map entry
    let joined := texts.zipIdx.foldl (fun acc ((t, width), i) =>
      acc ++ t ++ (if i + 1 < texts.length then indent width cell else "")) ""
    joined ++ "\n"
  String.join ((List.range rows).map row)

end BuildWorker.Shell
