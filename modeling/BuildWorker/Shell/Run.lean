import BuildWorker.Shell.Redirection
import BuildWorker.Shell.Tools
import BuildWorker.Shell.Parse
/-!
# Running shell code

Execution follows the shell's rules:

* shell text is read one complete command at a time, and each runs before the next is
  read, so a reading error further on does not stop what came before; the error is
  reported with where the text came from (`-c`, `eval`, a command substitution, a
  sourced file) and its line, and ends the shell (`eval` and the others just fail);
* a simple command's words are expanded, then its redirections applied for its
  duration, then its assignments made: kept when there is no command, else for the
  command alone;
* a name runs a function, else a builtin, else a utility; an unknown one fails with
  status 127 (126 for a file that cannot be run);
* `( ... )`, each stage of a pipeline, a command substitution and a background job run
  in a subshell: a copy of the shell state, dropped afterwards;
* an expansion error abandons the complete command being run (in a subshell, the
  subshell), and with status 1 the shell goes on with the next one.

Every function takes a fuel argument that bounds the nesting of evaluation.
-/

namespace BuildWorker.Shell

open Text

/-- Nesting allowed to evaluation. -/
def evalDepth : Nat := 2000

/-- The most iterations of one loop. -/
def loopLimit : Nat := 10000000

/-! ## Reading errors -/

/-- Where shell text comes from, which the messages of its reading errors name. -/
inductive TextOrigin where
  /-- The text the shell was started with: a script, or `-c` text. -/
  | main
  | eval
  | substitution
  | sourced (name : String)
  deriving DecidableEq, Repr, Inhabited

/-- The start of a reading error's message. -/
def ShellState.readingErrorStart (s : ShellState) (origin : TextOrigin) (line : Nat) : String :=
  let at_ := "line " ++ toString line ++ ": "
  match origin with
  | .main => if s.sourceName == "-c" then s.messagePrefix ++ ": -c: " ++ at_ else s.messagePrefix ++ ": " ++ at_
  | .eval => s.messagePrefix ++ ": eval: " ++ at_
  | .substitution => s.messagePrefix ++ ": command substitution: " ++ at_
  | .sourced name => name ++ ": " ++ at_

/-- Reports a reading error: the problem, and for an unexpected token the line it is
on. -/
def reportParseError (origin : TextOrigin) (text : Array Char) (first : Nat) (e : ParseError) :
    ShellM Unit := do
  let s ← getShell
  match e.problem with
  | .conditional said ending =>
      for (p, m) in said do
        writeErr (encode (s.readingErrorStart origin (reachedLine text first p) ++ m ++ "\n"))
      let start := s.readingErrorStart origin (reachedLine text first e.pos)
      match ending with
      | .near =>
          writeErr (encode (start ++ "syntax error near \x60" ++ nearText text e.pos ++ "'\n"))
          writeErr (encode (start ++ "\x60" ++ lineTextAt text (e.pos - 1) ++ "'\n"))
      | .atEnd => writeErr (encode (start ++ ParseProblem.unexpectedEnd.message ++ "\n"))
      | .silent => pure ()
  | _ =>
      let start := s.readingErrorStart origin (e.line text first)
      writeErr (encode (start ++ e.problem.message ++ "\n"))
      match e.problem with
      | .unexpectedToken _ => writeErr (encode (start ++ "\x60" ++ lineTextAt text e.pos ++ "'\n"))
      | _ => pure ()

/-! ## Commands by name -/

/-- What a name runs as a command, as `type` tells it. -/
inductive CommandKind where
  | alias (text : String)
  | keyword
  | function
  | builtin
  | file (path : String)
  deriving DecidableEq, Repr, Inhabited

/-- The utility a command name runs: by its name, or by its path in the directories of
the utilities. -/
def utilityOf? (name : String) : Option (ToolCall → ToolResult) :=
  if name.toList.contains '/' then
    let dir := String.ofList (name.toList.reverse.dropWhile (· != '/')).reverse
    if dir == "/usr/bin/" || dir == "/bin/" then toolNamed? (lastComponent name) else none
  else toolNamed? name

/-- Whether a name is a command that lives in the directories of the utilities. -/
def isUtilityName (name : String) : Bool :=
  (toolNamed? name).isSome || name == "sleep" || name == "bash" || name == "sh"

/-- Whether a name is a program installed in the directory of the utilities. -/
def isInstalledName (name : String) : Bool :=
  isUtilityName name || FileTree.installedPrograms.contains name

/-- What a name runs as. -/
def ShellState.commandKind? (s : ShellState) (name : String) : Option CommandKind :=
  match s.aliases.lookup name with
  | some text => some (.alias text)
  | none =>
      if keywordNames.contains name then some .keyword
      else if (s.functions.lookup name).isSome then some .function
      else if builtinNames.contains name then some .builtin
      else if name.toList.contains '/' then
        if (utilityOf? name).isSome then some (.file name) else none
      else if isInstalledName name then some (.file (toolDirectory ++ "/" ++ name))
      else none

/-- Whether a name can be run as a command. -/
def commandExists (name : String) : Bool :=
  builtinNames.contains name || isUtilityName name

/-- The words of a declaring builtin, with `name=value` words read as assignments of
their text. -/
def declItemsOf (items : List DeclItem) : List DeclItem :=
  items.map fun
    | .word w =>
        match w.toList.idxOf? '=' with
        | some k =>
            let lhs := String.ofList (w.toList.take k)
            let value := String.ofList (w.toList.drop (k + 1))
            let (lhs, append) := if lhs.endsWith "+" then (String.ofList lhs.toList.dropLast, true) else (lhs, false)
            let (name, sub) := match lhs.toList.idxOf? '[' with
              | some j =>
                  if lhs.endsWith "]" then
                    (String.ofList (lhs.toList.take j), some (String.ofList ((lhs.toList.drop (j + 1)).dropLast)))
                  else (lhs, none)
              | none => (lhs, none)
            if isName name && !w.startsWith "-" then
              .assign { name, subscript := sub, append, value := .scalar [.text value true] }
            else .word w
        | none => .word w
    | item => item

/-- Runs a utility, or says why the name runs nothing: a file that cannot be run
(status 126) or no command at all (status 127). -/
def runUtility (name : String) (args : List String) : ShellM Unit := do
  match utilityOf? name with
  | some tool =>
      let s ← getShell
      let w ← getWorld
      let r := tool { args, stdin := s.stdin, stdinIsFile := s.stdinIsFile, cwd := s.cwd, files := w.files,
                      env := s.environment }
      modifyWorld fun w => { w with files := r.files }
      let tool := lastComponent name
      if s.stdout == .closed then
        -- a closed standard output: the utility says so when it would have written
        let wrote := r.writes.any fun (fd, bytes) => fd == 1 && !bytes.isEmpty
        if tool == "cat" then
          writeErr (encode "cat: standard output: Bad file descriptor\n")
          setStatus 1
        else
          for (fd, bytes) in r.writes.toList do
            if fd != 1 then writeErr bytes
          if tool == "tee" then
            writeErr (encode "tee: 'standard output': Bad file descriptor\n")
            setStatus 1
          else if wrote then
            writeErr (encode (tool ++ ": write error: Bad file descriptor\n"))
            setStatus (if tool == "ls" || tool == "printenv" then 2 else 1)
          else setStatus r.status
      else
        for (fd, bytes) in r.writes.toList do
          if fd == 1 then writeOut bytes else writeErr bytes
        setStatus r.status
      if r.readInput then modifyShell fun s => { s with stdin := [] }
  | none =>
      if name.toList.contains '/' then
        let s ← getShell
        match (← getWorld).files.get? (resolvePath s.cwd name) with
        | some .dir =>
            complain (name ++ ": Is a directory")
            setStatus 126
        | some _ =>
            complain (name ++ ": Permission denied")
            setStatus 126
        | none =>
            complain (name ++ ": No such file or directory")
            setStatus 127
      else
        -- a name with characters that do not print is shown as `$'...'`
        complain ((if needsAnsiQuotes name then ansiQuote name else name) ++ ": command not found")
        setStatus 127

/-- The line `type` writes about a name. -/
def describeKind (name : String) : CommandKind → String
  | .alias text => name ++ " is aliased to \x60" ++ text ++ "'"
  | .keyword => name ++ " is a shell keyword"
  | .function => name ++ " is a function"
  | .builtin => name ++ " is a shell builtin"
  | .file path => name ++ " is " ++ path

/-- The word `type -t` writes about a kind. -/
def CommandKind.word : CommandKind → String
  | .alias _ => "alias"
  | .keyword => "keyword"
  | .function => "function"
  | .builtin => "builtin"
  | .file _ => "file"

/-- `type [-afptP] name...`: what each name runs as; `-t` only its kind, `-p` the file
it runs (`-P` the file even when it is not what runs), `-a` every way it can run, and
`-f` leaves functions out. -/
def typeBuiltin (args : List String) : ShellM Unit := do
  let some (given, names) ← builtinOptions "type" { flags := "afptP".toList } args | return
  let s ← getShell
  let all := flagGiven given 'a'
  let noFunctions := flagGiven given 'f'
  let kindOnly := flagGiven given 't'
  let pathOnly := flagGiven given 'p' || flagGiven given 'P'
  let forcePath := flagGiven given 'P'
  setStatus 0
  for n in names do
    -- the ways a name can run, in the order they are tried
    let files : List CommandKind :=
      if n.toList.contains '/' then
        if (utilityOf? n).isSome then [.file n] else []
      else if isInstalledName n then
        if all then [.file (toolDirectory ++ "/" ++ n), .file ("/bin/" ++ n)]
        else [.file (toolDirectory ++ "/" ++ n)]
      else []
    let before : List CommandKind :=
      (match s.aliases.lookup n with
        | some text => [.alias text]
        | none => []) ++
      (if keywordNames.contains n then [.keyword] else []) ++
      (if !noFunctions && (s.functions.lookup n).isSome then [.function] else []) ++
      (if builtinNames.contains n then [.builtin] else [])
    let kinds :=
      if forcePath then files.take (if all then files.length else 1)
      else if all then before ++ files
      else (before ++ files).take 1
    if kinds.isEmpty then
      if !kindOnly && !pathOnly then failBuiltin "type" (n ++ ": not found") 1
      else setStatus 1
    for k in kinds do
      if kindOnly then printOut (k.word ++ "\n")
      else if pathOnly then
        match k with
        | .file path => printOut (path ++ "\n")
        | _ => pure ()
      else printOut (describeKind n k ++ "\n")

/-- `command -v` and `command -V`: how each name would run; true when any of them
runs. -/
def describeCommands (verbose : Bool) (names : List String) : ShellM Unit := do
  let s ← getShell
  let mut found := false
  for n in names do
    match s.commandKind? n with
    | some k =>
        found := true
        if verbose then printOut (describeKind n k ++ "\n")
        else
          match k with
          | .alias text => printOut ("alias " ++ n ++ "=" ++ singleQuote text ++ "\n")
          | .file path => printOut (path ++ "\n")
          | _ => printOut (n ++ "\n")
    | none => if verbose then complain ("command: " ++ n ++ ": not found")
  setStatus (if found || names.isEmpty then 0 else 1)

/-- `alias` and `unalias`. -/
def aliasBuiltin (name : String) (args : List String) : ShellM Unit := do
  let spec : BuiltinSpec := if name == "unalias" then { flags := ['a'] } else { flags := ['p'] }
  let some (given, args) ← builtinOptions name spec args | return
  let s ← getShell
  setStatus 0
  if name == "unalias" then
    if flagGiven given 'a' then modifyShell fun s => { s with aliases := [] }
    else if args.isEmpty then
      showSynopsis "unalias"
      setStatus 2
    else
      for a in args do
        if ((← getShell).aliases.lookup a).isSome then
          modifyShell fun s => { s with aliases := s.aliases.filter (·.1 != a) }
        else failBuiltin "unalias" (a ++ ": not found") 1
  else
    if args.isEmpty || flagGiven given 'p' then
      let sorted := s.aliases.mergeSort fun a b => decide (a.1 ≤ b.1)
      for (n, v) in sorted do printOut ("alias " ++ n ++ "=" ++ singleQuote v ++ "\n")
    for a in args do
      match a.toList.idxOf? '=' with
      | some k =>
          let n := String.ofList (a.toList.take k)
          let v := String.ofList (a.toList.drop (k + 1))
          modifyShell fun s => { s with aliases := (s.aliases.filter (·.1 != n)) ++ [(n, v)] }
      | none =>
          match (← getShell).aliases.lookup a with
          | some v => printOut ("alias " ++ a ++ "=" ++ singleQuote v ++ "\n")
          | none => failBuiltin "alias" (a ++ ": not found") 1

/-- `hash`: the table of remembered utilities, which stays empty. -/
def hashBuiltin (args : List String) : ShellM Unit := do
  let some (given, names) ← builtinOptions "hash" { flags := "dlrt".toList, withArgument := ['p'] } args | return
  setStatus 0
  if names.isEmpty && given.isEmpty then printOut "hash: hash table empty\n"
  if flagGiven given 'd' || flagGiven given 'r' then return
  for n in names do
    if !isInstalledName n || flagGiven given 't' then failBuiltin "hash" (n ++ ": not found") 1

/-- Runs a builtin under its name, which messages of arithmetic in its assignments
start with. -/
def asBuiltin (name : String) (act : ShellM Unit) : ShellM Unit := do
  let saved := (← getShell).commandName
  modifyShell fun s => { s with commandName := name, outputFailed := false }
  withRestore
    (do
      act
      -- output lost to a closed standard output makes the builtin fail at its end
      if (← getShell).outputFailed then
        complain (name ++ ": write error: Bad file descriptor")
        setStatus 1)
    (modifyShell fun s => { s with commandName := saved, outputFailed := false })

/-- Runs a command at its line, which its messages name; the line before comes back
after it. -/
def atLine (line : Nat) (act : ShellM Unit) : ShellM Unit := do
  let saved := (← getShell).line
  modifyShell fun s => { s with line }
  withRestore act (modifyShell fun s => { s with line := saved })

/-- The variables a command's own assignments change, with what they were. -/
abbrev SavedVars := List (String × Option Variable)

/-- Puts variables back as they were. -/
def restoreVars (saved : SavedVars) : ShellM Unit :=
  modifyShell fun s => saved.foldl (fun s (n, v) => s.restoreVar n v) s

/-! ## Evaluation -/

mutual

/-- The evaluator that expansion uses, running commands with the fuel left. -/
def evaluator : Nat → Evaluator
  | 0 => { capture := fun _ => throw .halt, processFile := fun _ _ => throw .halt,
           settle := fun _ => throw .halt }
  | fuel + 1 =>
      { capture := fun source => commandOutput fuel source,
        processFile := fun source output => processFile fuel source output,
        settle := fun fd => settleDescriptor fuel fd }

/-- What shell code writes to standard output, without its final line feeds; `$?`
becomes its status. -/
def commandOutput : Nat → String → ShellM String
  | 0, _ => throw .halt
  | fuel + 1, source => do
      let level ← openCapture
      let status ← subshell fuel (do
        modifyShell fun s =>
          { s with stdout := .capture level, errexit := false, traceDepth := s.traceDepth + 1 }
        runText fuel source .substitution)
      let bytes ← closeCapture
      match status with
      | none => throw .halt
      | some st => setStatus st
      if bytes.contains 0 then complain "warning: command substitution: ignored null byte in input"
      let text := decodeLossy (bytes.filter (· != 0))
      pure (String.ofList (text.toList.reverse.dropWhile (· == '\n')).reverse)

/-- The file a process substitution stands for: for `<(list)` it holds the list's
output; for `>(list)` the list reads what is written to it once the command is done. -/
def processFile : Nat → String → Bool → ShellM String
  | 0, _, _ => throw .halt
  | fuel + 1, source, output => do
      let w ← getWorld
      let number := 63 - w.pipesMade % 50
      let path := ["dev", "fd", toString number]
      modifyWorld fun w =>
        { w with pipesMade := w.pipesMade + 1, files := (w.files.makeDir ["dev", "fd"] true).toOption.getD w.files }
      if output then
        modifyWorld fun w =>
          { w with files := (w.files.write path [] false).toOption.getD w.files,
                   pendingOutputs := w.pendingOutputs ++ [(path, source)] }
      else
        let level ← openCapture
        let _ ← subshell fuel (do
          modifyShell fun s => { s with stdout := .capture level }
          runText fuel source .substitution)
        let bytes ← closeCapture
        modifyWorld fun w => { w with files := (w.files.write path bytes false).toOption.getD w.files }
      pure ("/dev/fd/" ++ toString number)

/-- Makes the output of a coprocess readable at a descriptor: the coprocess runs now,
reading what was written to it. -/
def settleDescriptor : Nat → Nat → ShellM Unit
  | 0, _ => throw .halt
  | fuel + 1, fd => do
      let s ← getShell
      match s.descriptor? fd with
      | some (.pending pid) =>
          match s.coprocs.find? (·.pid == pid) with
          | none => pure ()
          | some co =>
              let status := s.status
              let level ← openCapture
              let _ ← subshell fuel (do
                modifyShell fun s =>
                  { s with stdout := .capture level, stdin := co.input, stdinClosed := false, stdinIsFile := false }
                runCommand fuel co.body)
              let bytes ← closeCapture
              modifyShell fun s =>
                { s with fds := s.fds.map (fun (n, d) => if d == .pending pid then (n, .source bytes) else (n, d)),
                         status }
      | _ => pure ()

/-- Runs the lists of `>(list)` waiting for the command that just ran: each reads what
was written to its file. -/
def runPendingOutputs : Nat → ShellM Unit
  | 0 => throw .halt
  | fuel + 1 => do
      let w ← getWorld
      if w.pendingOutputs.isEmpty then return
      modifyWorld fun w => { w with pendingOutputs := [] }
      let status ← getStatus
      for (path, source) in w.pendingOutputs do
        let bytes := ((← getWorld).files.read path 0).toOption.getD []
        let _ ← subshell fuel (do
          modifyShell fun s => { s with stdin := bytes, stdinClosed := false, stdinIsFile := false }
          runText fuel source .substitution)
      setStatus status

/-- Runs a loop body once: gives whether the loop goes on, after `break` and `continue`
are counted off. -/
def loopStep : Nat → Command → ShellM Bool
  | 0, _ => throw .halt
  | fuel + 1, body =>
      tryCatch (do runCommand fuel body; pure true) fun
        | .breakLoop n => if n > 1 then throw (.breakLoop (n - 1)) else pure false
        | .continueLoop n => if n > 1 then throw (.continueLoop (n - 1)) else pure true
        | e => throw e

/-- Runs a command. -/
def runCommand : Nat → Command → ShellM Unit
  | 0, _ => throw .halt
  | fuel + 1, c =>
      let ev := evaluator fuel
      match c with
      | .simple line assignments words redirects => atLine line (runSimple fuel assignments words redirects)
      | .pipeline negated stages => do
          let whole : ShellM Unit := match stages with
          | [one] => runCommand fuel one
          | _ => do
              let start := (← getWorld).clock
              let mut input : Option (List UInt8) := none
              let mut finish := start
              let mut stalled := false
              let mut statuses : Array Nat := #[]
              let count := stages.length
              for (stage, i) in stages.zipIdx do
                modifyWorld fun w => { w with clock := start }
                let isLast := i + 1 == count
                let level ← if isLast then pure 0 else openCapture
                let feed := input
                let status ← subshell fuel (do
                  match feed with
                  | some bytes =>
                      modifyShell fun s => { s with stdin := bytes, stdinClosed := false, stdinIsFile := false }
                  | none => pure ()
                  if !isLast then modifyShell fun s => { s with stdout := .capture level }
                  runCommand fuel stage)
                if !isLast then input := some (← closeCapture)
                finish := max finish (← getWorld).clock
                match status with
                | some st => statuses := statuses.push st
                | none =>
                    stalled := true
                    statuses := statuses.push 0
              if stalled then
                let w ← getWorld
                modifyWorld fun w => { w with clock := w.horizon }
                if w.horizon > 0 then throw .halt
              modifyWorld fun w => { w with clock := finish }
              let s ← getShell
              let last := statuses.back?.getD 0
              let failing := (statuses.toList.filter (· != 0)).getLast?.getD 0
              setStatus (if s.pipefail && failing != 0 then failing else last)
              modifyShell fun s => { s with pipeStatus := statuses.toList }
          if negated then
            asCondition whole
            setStatus (if (← getStatus) == 0 then 1 else 0)
            modifyShell fun s => { s with pipeStatus := [s.status] }
          else
            whole
            if stages.length > 1 then failFast
      | .both first second => do
          asCondition (runCommand fuel first)
          if (← getStatus) == 0 then runCommand fuel second
      | .either first second => do
          asCondition (runCommand fuel first)
          if (← getStatus) != 0 then runCommand fuel second
      | .sequence items => do
          if items.isEmpty then setStatus 0
          for item in items do runCommand fuel item
      | .background body => spawnBackground (do
          modifyShell fun s => { s with traps := s.traps.filter (·.2.isEmpty), pendingSignals := [] }
          asShell fuel (runCommand fuel body))
      | .subshell body redirects => do
          match ← applyRedirects ev fuel redirects with
          | none =>
              setStatus 1
              failFast
          | some saved =>
              let status ← withRestore (subshell fuel (runCommand fuel body)) (restoreDescriptors saved)
              match status with
              | some st =>
                  setStatus st
                  failFast
              | none => throw .halt
      | .group body redirects => do
          match ← applyRedirects ev fuel redirects with
          | none =>
              setStatus 1
              failFast
          | some saved => withRestore (runCommand fuel body) (restoreDescriptors saved)
      | .conditional branches otherwise redirects => do
          match ← applyRedirects ev fuel redirects with
          | none =>
              setStatus 1
              failFast
          | some saved =>
              withRestore (do
                for (cond, body) in branches do
                  asCondition (runCommand fuel cond)
                  if (← getStatus) == 0 then
                    runCommand fuel body
                    return
                match otherwise with
                | some e => runCommand fuel e
                | none => setStatus 0) (restoreDescriptors saved)
      | .forEach line name items body redirects => atLine line do
          match ← applyRedirects ev fuel redirects with
          | none =>
              setStatus 1
              failFast
          | some saved =>
              let values ← match items with
                | some ws => expandWords ev fuel ws
                | none => pure (← getShell).positional
              if !isName name then
                complain ("\x60" ++ name ++ "': not a valid identifier")
                setStatus 1
                restoreDescriptors saved
                return
              let depth := (← getShell).loopDepth
              modifyShell fun s => { s with loopDepth := depth + 1 }
              withRestore (do
                -- the body starts with the status from before the loop; no pass at all
                -- leaves status 0
                if values.isEmpty then setStatus 0
                for v in values do
                  tick
                  trace ("for " ++ name ++ " in " ++ " ".intercalate (values.map traceWord))
                  let _ ← setValue name none v false
                  if !(← loopStep fuel body) then break) (do
                restoreDescriptors saved
                modifyShell fun s => { s with loopDepth := depth })
      | .forArith line init test step body redirects => atLine line do
          match ← applyRedirects ev fuel redirects with
          | none =>
              setStatus 1
              failFast
          | some saved =>
              -- each expression is traced and evaluated as `(( ... ))` would be, without
              -- its leading blanks; an empty test is true, and an error ends the loop
              let arith (text : String) : ShellM (Option Int) := do
                let text := String.ofList (text.toList.dropWhile fun c => c == ' ' || c == '\t')
                if text.trimAscii.isEmpty then pure (some 1)
                else
                  let expanded ← match readArithWord text with
                    | .ok w => expandText ev fuel w
                    | .error _ => pure text
                  trace ("(( " ++ expanded ++ " ))")
                  match ← evalArith expanded with
                  | .ok v => pure (some v)
                  | .error f =>
                      reportArith "((" f
                      pure none
              let depth := (← getShell).loopDepth
              modifyShell fun s => { s with loopDepth := depth + 1 }
              withRestore (do
                match ← arith init with
                | none => setStatus 1
                | some _ =>
                  let mut bodyStatus := 0
                  for _ in [0:loopLimit] do
                    tick
                    match ← arith test with
                    | none =>
                        bodyStatus := 1
                        break
                    | some 0 => break
                    | some _ => pure ()
                    let goOn ← loopStep fuel body
                    bodyStatus ← getStatus
                    if !goOn then
                      bodyStatus := 0
                      break
                    if (← arith step).isNone then
                      bodyStatus := 1
                      break
                  setStatus bodyStatus) (do
                restoreDescriptors saved
                modifyShell fun s => { s with loopDepth := depth })
      | .select line name items body redirects => atLine line do
          match ← applyRedirects ev fuel redirects with
          | none =>
              setStatus 1
              failFast
          | some saved =>
              let values ← match items with
                | some ws => expandWords ev fuel ws
                | none => pure (← getShell).positional
              if !isName name then
                complain ("\x60" ++ name ++ "': not a valid identifier")
                setStatus 1
                restoreDescriptors saved
                return
              let depth := (← getShell).loopDepth
              modifyShell fun s => { s with loopDepth := depth + 1 }
              withRestore (do
                let prompt := (lookupVar (← getShell) "PS3").getD "#? "
                let mut showMenu := true
                let mut bodyStatus := 0
                for _ in [0:loopLimit] do
                  tick
                  if values.isEmpty then break
                  if showMenu then writeErr (encode (selectMenu values))
                  writeErr (encode prompt)
                  match ← inputAt 0 with
                  | none =>
                      bodyStatus := 1
                      break
                  | some input =>
                      if input.isEmpty then
                        writeErr (encode "\n")
                        bodyStatus := 1
                        break
                      let (chars, _, rest) := takeLine input '\n' none false false
                      setInputAt 0 rest
                      let line := String.ofList chars
                      let _ ← setValue "REPLY" none line false
                      let reply := line.trimAscii.toString
                      if reply.isEmpty then
                        showMenu := true
                        continue
                      showMenu := false
                      let chosen := match reply.toNat? with
                        | some k => if 1 ≤ k && k ≤ values.length then values.getD (k - 1) "" else ""
                        | none => ""
                      let _ ← setValue name none chosen false
                      let goOn ← loopStep fuel body
                      bodyStatus ← getStatus
                      if !goOn then
                        bodyStatus := 0
                        break
                setStatus bodyStatus) (do
                restoreDescriptors saved
                modifyShell fun s => { s with loopDepth := depth })
      | .loop untilTrue cond body redirects => do
          match ← applyRedirects ev fuel redirects with
          | none =>
              setStatus 1
              failFast
          | some saved =>
              let depth := (← getShell).loopDepth
              modifyShell fun s => { s with loopDepth := depth + 1 }
              withRestore (do
                let mut bodyStatus := 0
                for _ in [0:loopLimit] do
                  tick
                  let r ← tryCatch (do asCondition (runCommand fuel cond); pure 0) fun
                    | .breakLoop n => if n > 1 then throw (.breakLoop (n - 1)) else pure 1
                    | .continueLoop n => if n > 1 then throw (.continueLoop (n - 1)) else pure 2
                    | e => throw e
                  if r == 1 then break
                  if r == 2 then continue
                  if ((← getStatus) == 0) == untilTrue then break
                  let goOn ← loopStep fuel body
                  bodyStatus ← getStatus
                  if !goOn then
                    bodyStatus := 0
                    break
                setStatus bodyStatus) (do
                restoreDescriptors saved
                modifyShell fun s => { s with loopDepth := depth })
      | .caseOf line subject arms redirects => atLine line do
          match ← applyRedirects ev fuel redirects with
          | none =>
              setStatus 1
              failFast
          | some saved =>
              withRestore (do
                let text ← expandText ev fuel subject
                let s ← getShell
                let fold := s.shopt "nocasematch"
                let extended := s.shopt "extglob"
                let mut falling := false
                let mut ran := false
                for (patterns, body, ending) in arms do
                  let mut hit := falling
                  if !hit then
                    for p in patterns do
                      if !hit then
                        let pat ← expandPattern ev fuel p
                        if globMatchesWith extended fold pat text then hit := true
                  if hit then
                    ran := true
                    runCommand fuel body
                    match ending with
                    | .stop => return
                    | .fallThrough => falling := true
                    | .testNext => falling := false
                  else falling := false
                if !ran then setStatus 0) (restoreDescriptors saved)
      | .function name body => do
          -- text from the command line has no file: its functions are said to come from
          -- the environment
          modifyShell fun s =>
            let source := if s.commandMode && s.sourceDepth == 0 && s.callStack.isEmpty then "environment"
              else s.messagePrefix
            { s with functions := (name, body) :: s.functions.filter (·.1 != name),
                     functionSources := (name, source) :: s.functionSources.filter (·.1 != name) }
          setStatus 0
      | .arithmetic line source redirects => atLine line do
          match ← applyRedirects ev fuel redirects with
          | none =>
              setStatus 1
              failFast
          | some saved =>
              withRestore (do
                tick
                let text ← match readArithWord source with
                  | .ok w => expandText ev fuel w
                  | .error _ => pure source
                trace ("(( " ++ text ++ " ))")
                match ← evalArith text with
                | .ok v => setStatus (if v == 0 then 1 else 0)
                | .error f =>
                    reportArith "((" f
                    setStatus 1
                modifyShell fun s => { s with pipeStatus := [s.status] }) (restoreDescriptors saved)
              failFast
      | .test line e redirects => atLine line do
          match ← applyRedirects ev fuel redirects with
          | none =>
              setStatus 1
              failFast
          | some saved =>
              withRestore (do
                tick
                match ← evalCond ev fuel e with
                | some b => setStatus (if b then 0 else 1)
                | none => setStatus 2
                modifyShell fun s => { s with pipeStatus := [s.status] }) (restoreDescriptors saved)
              failFast
      | .coproc name body => do
          let pid ← freshPid
          let s ← getShell
          let taken := s.coprocs.length
          let readFd := 63 - 2 * taken
          let writeFd := 60 - 2 * taken
          modifyShell fun s =>
            { s with coprocs := s.coprocs ++ [{ name, body, pid, readFd, writeFd }],
                     fds := (s.fds.filter fun (n, _) => n != readFd && n != writeFd) ++
                       [(readFd, .pending pid), (writeFd, .sink (.coprocess pid))],
                     lastJob := some pid }
          modifyShell fun s =>
            (s.putVar name { value := .indexed [(0, toString readFd), (1, toString writeFd)] }).setVar
              (name ++ "_PID") (toString pid)
          setStatus 0

/-- Runs a simple command. -/
def runSimple : Nat → List Assignment → List Arg → List Redirect → ShellM Unit
  | 0, _, _, _ => throw .halt
  | fuel + 1, assignments, args, redirects => do
      tick
      let ev := evaluator fuel
      let mut fields : Array String := #[]
      let mut items : Array DeclItem := #[]
      let mut traced : Array String := #[]
      for a in args do
        match a with
        | .word w =>
            let fs ← expandWords ev fuel [w]
            fields := fields ++ fs.toArray
            items := items ++ (fs.map DeclItem.word).toArray
            traced := traced ++ (fs.map traceWord).toArray
        | .assign asg text =>
            match asg.value with
            | .scalar w =>
                let v ← expandAssigned ev fuel w
                items := items.push (.assign { asg with value := .scalar [.text v true] })
                let shown := asg.name ++ ((asg.subscript.map fun t => "[" ++ t ++ "]").getD "") ++
                  (if asg.append then "+=" else "=") ++ v
                fields := fields.push shown
                traced := traced.push (traceWord shown)
            | .list _ =>
                -- a list cannot go into one element: the complete command is given up
                if let some t := asg.subscript then
                  complain (asg.name ++ "[" ++ t ++ "]: cannot assign list to array member")
                  setStatus 1
                  throw .abort
                items := items.push (.assign asg)
                fields := fields.push text
                traced := traced.push text
      -- an assignment: expanded, traced, and refused for a read-only variable
      let assign (asg : Assignment) : ShellM Bool := do
        let s ← getShell
        if ((s.findVar asg.name).map (·.readOnly)).getD false then
          complain (asg.name ++ ": readonly variable")
          return false
        match asg.value with
        | .scalar w =>
            let v ← expandAssigned ev fuel w
            let sub := (asg.subscript.map fun t => "[" ++ t ++ "]").getD ""
            trace (asg.name ++ sub ++ (if asg.append then "+=" else "=") ++ traceValue v)
            let slot ← match asg.subscript with
              | some t => some <$> slotOf ev fuel asg.name t
              | none => pure none
            let _ ← setValue asg.name slot v asg.append
            pure true
        | .list arrayItems =>
            if let some t := asg.subscript then
              complain (asg.name ++ "[" ++ t ++ "]: cannot assign list to array member")
              return false
            let _ ← assignList ev fuel asg.name arrayItems asg.append
            pure true
      match fields.toList with
      | [] =>
          setStatus 0
          for asg in assignments do
            if !(← assign asg) then
              setStatus 1
              throw .abort
          let status ← getStatus
          match ← applyRedirects ev fuel redirects with
          | some saved =>
              restoreDescriptors saved
              setStatus status
          | none => setStatus 1
          modifyShell fun s => { s with pipeStatus := [s.status] }
          failFast
      | name :: rest =>
          match ← applyRedirects ev fuel redirects with
          | none =>
              setStatus 1
              modifyShell fun s => { s with pipeStatus := [1] }
              failFast
          | some saved =>
              if name == "exec" && rest.isEmpty then
                for asg in assignments do
                  let _ ← assign asg
                trace (" ".intercalate traced.toList)
                setStatus 0
                return
              let mut undo : SavedVars := []
              for asg in assignments do
                -- an element is no name a command can be given
                if let some t := asg.subscript then
                  complain ("\x60" ++ asg.name ++ "[" ++ t ++ "]': not a valid identifier")
                  continue
                let before := (← getShell).vars.lookup asg.name
                if ← assign asg then
                  undo := (asg.name, before) :: undo
                  modifyShell (·.exportVar asg.name)
              trace (" ".intercalate traced.toList)
              let undoVars := undo
              -- the redirections of `exec` stay, even when it refuses its options
              withRestore (invoke fuel name rest (items.toList.drop 1) true) (do
                restoreVars undoVars
                if name != "exec" then restoreDescriptors saved)
              modifyShell fun s => { s with lastArg := fields.back?.getD "", pipeStatus := [s.status] }
              runPendingOutputs fuel
              runPendingTraps fuel
              let s ← getShell
              if s.status != 0 && !s.tested then
                match s.traps.lookup "ERR" with
                | some action =>
                    if !action.isEmpty then
                      let status := s.status
                      runText fuel action .eval
                      setStatus status
                | none => pure ()
              failFast

/-- Runs a named command: a function (when `functions`), a builtin or a utility. -/
def invoke : Nat → String → List String → List DeclItem → Bool → ShellM Unit
  | 0, _, _, _, _ => throw .halt
  | fuel + 1, name, args, items, functions => do
      let s ← getShell
      match (if functions then s.functions.lookup name else none) with
      | some body => callFunction fuel name body args
      | none =>
          if builtinNames.contains name then asBuiltin name (runBuiltin fuel name args items)
          else if name == "sleep" then sleepBuiltin args
          else if name == "bash" || name == "sh" then runShellCommand fuel name args
          else runUtility name args

/-- Runs a builtin. -/
def runBuiltin : Nat → String → List String → List DeclItem → ShellM Unit
  | 0, _, _, _ => throw .halt
  | fuel + 1, name, args, items => do
      let ev := evaluator fuel
      match name with
      | ":" | "true" => setStatus 0
      | "false" => setStatus 1
      | "exit" => exitBuiltin args
      | "return" => returnBuiltin args
      | "break" | "continue" => loopBuiltin name args
      | "export" | "readonly" | "declare" | "typeset" | "local" =>
          let items := if items.length == args.length then items else args.map DeclItem.word
          declareBuiltin ev fuel name (declItemsOf items)
      | "unset" => unsetBuiltin ev fuel args
      | "shift" => shiftBuiltin args
      | "set" => setBuiltin args
      | "shopt" => shoptBuiltin args
      | "getopts" => getoptsBuiltin args
      | "cd" => cdBuiltin args
      | "pwd" => pwdBuiltin args
      | "pushd" => pushdBuiltin args
      | "popd" => popdBuiltin args
      | "dirs" => dirsBuiltin args
      | "echo" => echoBuiltin args
      | "printf" => printfBuiltin args
      | "test" | "[" => testBuiltin name args
      | "let" => letBuiltin args
      | "read" => readBuiltin ev args
      | "mapfile" | "readarray" => mapfileBuiltin ev name args
      | "trap" => trapBuiltin args
      | "kill" => killBuiltin args
      | "wait" => waitBuiltin args
      | "umask" => umaskBuiltin args
      | "times" => timesBuiltin args
      | "type" => typeBuiltin args
      | "hash" => hashBuiltin args
      | "alias" | "unalias" => aliasBuiltin name args
      | "eval" =>
          let some (_, args) ← builtinOptions "eval" {} args | return
          let text := " ".intercalate args
          if text.trimAscii.isEmpty then setStatus 0 else runText fuel text .eval
      | "source" | "." =>
          let some (_, args) ← builtinOptions name {} args | return
          match args with
          | [] =>
              failBuiltin name "filename argument required" 2
              showSynopsis name
          | file :: rest =>
              let s ← getShell
              match (← getWorld).files.read (resolvePath s.cwd file) 0 with
              | .error e => failBuiltin name (file ++ ": " ++ e.plainMessage) 1
              | .ok bytes =>
                  let saved := s.positional
                  let savedPrefix := s.messagePrefix
                  modifyShell fun s =>
                    { s with positional := if rest.isEmpty then s.positional else rest,
                             sourceDepth := s.sourceDepth + 1, messagePrefix := file }
                  withRestore (tryCatch (runText fuel (decodeLossy bytes) (.sourced file)) fun
                    | .leave => pure ()
                    | e => throw e) (modifyShell fun s =>
                      { s with positional := if rest.isEmpty then s.positional else saved,
                               sourceDepth := s.sourceDepth - 1, messagePrefix := savedPrefix })
      | "exec" =>
          let some (_, args) ← builtinOptions "exec" { flags := ['c', 'l'], withArgument := ['a'] } args | return
          match args with
          | [] => setStatus 0
          | cmd :: rest =>
              let s ← getShell
              if (s.commandKind? cmd).isSome || (utilityOf? cmd).isSome then
                invoke fuel cmd rest [] true
              else if cmd.toList.contains '/' &&
                  (← getWorld).files.get? (resolvePath s.cwd cmd) == some .dir then
                complain (cmd ++ ": Is a directory")
                failBuiltin "exec" (cmd ++ ": cannot execute: Is a directory") 126
              else
                failBuiltin "exec" (cmd ++ ": not found") 127
              throw .exit
      | "command" =>
          let some (given, rest) ← builtinOptions "command" { flags := ['p', 'v', 'V'] } args | return
          if flagGiven given 'v' || flagGiven given 'V' then describeCommands (flagGiven given 'V') rest
          else
            match rest with
            | [] => setStatus 0
            | cmd :: more => invoke fuel cmd more (more.map DeclItem.word) false
      | "builtin" =>
          let some (_, args) ← builtinOptions "builtin" {} args | return
          match args with
          | [] => setStatus 0
          | b :: more =>
              if builtinNames.contains b then runBuiltin fuel b more (more.map DeclItem.word)
              else failBuiltin "builtin" (b ++ ": not a shell builtin") 1
      | "caller" => setStatus 1
      | "fg" | "bg" => failBuiltin name "no job control" 1
      | "logout" => failBuiltin "logout" "not login shell: use `exit'" 1
      | "jobs" | "disown" =>
          let spec : BuiltinSpec := if name == "jobs" then { flags := "lpnrs".toList, withArgument := ['x'] }
            else { flags := ['a', 'h', 'r'] }
          let some (given, args) ← builtinOptions name spec args | return
          setStatus 0
          if name == "disown" && args.isEmpty && !flagGiven given 'a' && !flagGiven given 'r' then
            failBuiltin "disown" "current: no such job" 1
          for a in args do
            if a.startsWith "%" || name == "jobs" then failBuiltin name (a ++ ": no such job") 1
      | "suspend" =>
          let some _ ← builtinOptions "suspend" { flags := ['f'] } args | return
          setStatus 0
      | "history" =>
          let some _ ← builtinOptions "history" { flags := "acnrwps".toList, withArgument := ['d'] } args | return
          setStatus 0
      | "fc" =>
          let some _ ← builtinOptions "fc" { flags := "lnrs".toList, withArgument := ['e'] } args | return
          setStatus 0
      | "enable" =>
          let some _ ← builtinOptions "enable" { flags := "adnps".toList, withArgument := ['f'] } args | return
          setStatus 0
      | "help" =>
          let some _ ← builtinOptions "help" { flags := ['d', 'm', 's'] } args | return
          setStatus 0
      | "ulimit" =>
          if args.isEmpty || args == ["-f"] then printOut "unlimited\n"
          setStatus 0
      | _ => setStatus 0

/-- Calls a function: positional parameters become the arguments, local variables are
put back, and `return` ends it. -/
def callFunction : Nat → String → Command → List String → ShellM Unit
  | 0, _, _, _ => throw .halt
  | fuel + 1, name, body, args => do
      let saved ← getShell
      modifyShell fun s =>
        { s with positional := args, locals := [] :: s.locals, loopDepth := 0, callStack := name :: s.callStack,
                 messagePrefix := (s.functionSources.lookup name).getD s.messagePrefix }
      let finish : ShellM Unit := modifyShell fun s =>
        let frame := s.locals.head?.getD []
        let s := frame.foldl (fun s (n, v) => s.restoreVar n v) s
        { s with positional := saved.positional, locals := s.locals.drop 1,
                 loopDepth := saved.loopDepth, callStack := s.callStack.drop 1,
                 messagePrefix := saved.messagePrefix }
      withRestore (tryCatch (runCommand fuel body) fun
        | .leave => pure ()
        | e => throw e) finish

/-- `bash` or `sh` run as a command: `-c text [name args...]`, a script file, or the
script on standard input, in a fresh shell that sees only the exported variables. -/
def runShellCommand : Nat → String → List String → ShellM Unit
  | 0, _, _ => throw .halt
  | fuel + 1, name, args => do
      let options := args.takeWhile fun a => (a.startsWith "-" || a.startsWith "+") && a.length > 1 && a != "--"
      let rest := dropDashes (args.drop options.length)
      let letters := options.flatMap (·.toList.drop 1)
      let commandMode := letters.contains 'c'
      let s ← getShell
      let source : Option (String × String × List String × String) ←
        if commandMode then
          match rest with
          | t :: n :: more => pure (some (t, n, more, "-c"))
          | [t] => pure (some (t, name, [], "-c"))
          | [] =>
              writeErr (encode (name ++ ": -c: option requires an argument\n"))
              setStatus 2
              pure none
        else
          match rest with
          | file :: more =>
              match (← getWorld).files.read (resolvePath s.cwd file) 0 with
              | .ok bytes => pure (some (decodeLossy bytes, file, more, file))
              | .error e =>
                  writeErr (encode (name ++ ": " ++ file ++ ": " ++ e.plainMessage ++ "\n"))
                  setStatus 127
                  pure none
          | [] => pure (some (decodeLossy s.stdin, name, [], "-c"))
      match source with
      | none => pure ()
      | some (text, scriptName, positional, origin) =>
          let status ← inSubshell (do
            modifyShell fun s =>
              { s with vars := s.vars.filter (·.2.exported), functions := [], functionSources := [], positional,
                       scriptName, locals := [], loopDepth := 0, topPid := s.pid, line := 1,
                       messagePrefix := scriptName, sourceName := origin,
                       errexit := letters.contains 'e', nounset := letters.contains 'u',
                       xtrace := letters.contains 'x', pipefail := false, tested := false, traceDepth := 1,
                       subshellDepth := 0, traps := [], pendingSignals := [], callStack := [],
                       dirStack := [], aliases := [], commandMode, sourceDepth := 0,
                       setOptions := defaultSetOptions, shopts := defaultShopts, coprocs := [] }
            asShell fuel (runText fuel text .main))
          match status with
          | some st => setStatus st
          | none => throw .halt

/-- Runs an action as a whole shell: however it ends, by finishing, by `exit` or by a
signal that can be caught, the shell's `EXIT` trap runs once after it, with the status
the shell ends with.  That status stays unless the trap itself exits. -/
def asShell : Nat → ShellM Unit → ShellM Unit
  | 0, _ => throw .halt
  | fuel + 1, act => do
      let ended ← tryCatch (do act; pure none) fun
        | .halt => throw .halt
        | .killed sig => do
            if sig == 9 then throw (.killed sig)
            setStatus (128 + sig)
            pure (some (Interrupt.killed sig))
        | e => pure (some e)
      match (← getShell).traps.lookup "EXIT" with
      | some action =>
          modifyShell fun s => { s with traps := s.traps.filter (·.1 != "EXIT") }
          if !action.isEmpty then
            let status ← getStatus
            let exited ← tryCatch (do runText fuel action .eval; pure false) fun
              | .exit => pure true
              | .halt => throw .halt
              | .killed sig => throw (.killed sig)
              | _ => pure false
            if !exited then setStatus status
      | none => pure ()
      match ended with
      | some e => throw e
      | none => pure ()

/-- Runs an action as a subshell, one level deeper, which starts with no traps but the
ignored ones and runs its own `EXIT` trap when it ends. -/
def subshell : Nat → ShellM Unit → ShellM (Option Nat)
  | 0, _ => throw .halt
  | fuel + 1, act =>
      inSubshell (do
        modifyShell fun s =>
          { s with traps := s.traps.filter (·.2.isEmpty), pendingSignals := [],
                   subshellDepth := s.subshellDepth + 1 }
        asShell fuel act)

/-- Runs the traps of signals that arrived during the last command; the status of that
command stays. -/
def runPendingTraps : Nat → ShellM Unit
  | 0 => throw .halt
  | fuel + 1 => do
      let s ← getShell
      if s.pendingSignals.isEmpty then return
      modifyShell fun s => { s with pendingSignals := [] }
      for sig in s.pendingSignals do
        let action := (signalNumbers.find? (·.2 == sig)).bind fun (n, _) => s.traps.lookup n
        match action with
        | some text => runText fuel text .eval
        | none => pure ()
      setStatus s.status

/-- Runs shell text complete command by complete command.  A reading error is reported;
it ends the shell for the main text (status 2, or 1 for an array left open) and
otherwise ends only this text.  Outside a subshell, an expansion error drops the rest of
its complete command and the next one runs. -/
def runText : Nat → String → TextOrigin → ShellM Unit
  | 0, _, _ => throw .halt
  | fuel + 1, text, origin => do
      let chars := text.toList.toArray
      let outerLine := (← getShell).line
      let first := match origin with
        | .main | .sourced _ => 1
        | _ => outerLine
      let mut src := Source.ofTextAt text first (origin == .substitution)
      let mut ran := false
      let mut warned := 0
      for _ in [0:text.length + 2] do
        let extglob := (← getShell).shopt "extglob"
        let (r, next) := { src with extglob }.nextCommand
        src := next
        for (line, warning) in next.warnings.drop warned do
          let s ← getShell
          writeErr (encode (s.messagePrefix ++ ": line " ++ toString line ++ ": " ++ warning ++ "\n"))
        warned := next.warnings.length
        match r with
        | .error e =>
            reportParseError origin chars first e
            setStatus (if e.problem == .unclosedArray then 1 else 2)
            if origin == .main then throw .exit
            ran := true
            break
        | .ok none => break
        | .ok (some (c, line)) =>
            ran := true
            modifyShell fun s => { s with line }
            if (← getShell).subshellDepth > 0 then runCommand fuel c
            else
              tryCatch (runCommand fuel c) fun
                | .abort => pure ()
                | .leave => if origin == .main then pure () else throw .leave
                | .breakLoop n => if origin == .main then pure () else throw (.breakLoop n)
                | .continueLoop n => if origin == .main then pure () else throw (.continueLoop n)
                | e => throw e
      if !ran then setStatus 0
      if origin != .main then modifyShell fun s => { s with line := outerLine }

end

/-! ## Whole runs -/

/-- The environment a run starts with. -/
def standardEnvironment : List (String × String) :=
  [("HOME", "/home/buildq-oracle"), ("LANG", "C.UTF-8"),
    ("PATH", "/usr/local/sbin:/usr/local/bin:/usr/sbin:/usr/bin:/sbin:/bin"), ("TMPDIR", "/tmp")]

/-- What a run starts from. -/
structure RunSetup where
  script : String
  /-- `$0`. -/
  scriptName : String
  messagePrefix : String
  args : List String := []
  /-- The exported variables the shell starts with. -/
  env : List (String × String) := standardEnvironment
  cwd : List String
  files : FileTree
  /-- Microseconds after which nothing matters. -/
  horizon : Nat
  budget : Nat := 400000
  /-- Whether standard error goes to the watched output too; otherwise it is dropped. -/
  watchErrors : Bool := true
  /-- Whether the script was given on the command line (`bash -c`) rather than as a
  file. -/
  commandLine : Bool := true
  deriving Repr

/-- What a run did: its writes to the watched output in time order, when it ended and
with what exit code (128 plus the signal for a fatal signal), when the watched output
was closed by every process holding it, and the files it left.  A run still going at
the horizon has no end. -/
structure Trace where
  written : List (Nat × List UInt8)
  exit : Option (Nat × Nat)
  closed : Option Nat
  files : FileTree
  deriving Repr

/-- Runs a script to its end or the horizon. -/
def RunSetup.run (setup : RunSetup) : Trace :=
  let shell : ShellState :=
    { vars := setup.env.map fun (n, v) => (n, { value := .scalar v, exported := true }),
      positional := setup.args, scriptName := setup.scriptName, cwd := setup.cwd,
      messagePrefix := setup.messagePrefix,
      sourceName := if setup.commandLine then "-c" else setup.scriptName,
      commandMode := setup.commandLine, shopts := defaultShopts,
      stderr := if setup.watchErrors then .watched else .discard }
  let shell := shell.setVar "PWD" (hostPathText setup.cwd)
  let world : World := { horizon := setup.horizon, budget := setup.budget, files := setup.files }
  let act : ShellM (Option Nat) :=
    tryCatch (do asShell evalDepth (runText evalDepth setup.script .main); pure (some (← getStatus))) fun
      | .halt => pure none
      | .killed sig => pure (some (128 + sig))
      | _ => do pure (some (← getStatus))
  let (outcome, m) := (act.run).run { shell, world }
  let status := match outcome with
    | .ok s => s
    | .error _ => none
  let w := m.world
  let exitAt := match w.topSignal with
    | some (sig, t) => some (t, 128 + sig)
    | none => status.map fun st => (w.clock, st)
  let holders := w.jobs.filter (·.holdsOutput)
  let closed := exitAt.bind fun (t, _) =>
    holders.foldl (fun acc j => acc.bind fun c => j.finish.map fun (e, _) => max c e) (some t)
  let written := (w.written.toList.mergeSort (fun a b => a.time ≤ b.time)).map fun x => (x.time, x.bytes)
  { written, exit := exitAt, closed, files := w.files }

end BuildWorker.Shell
