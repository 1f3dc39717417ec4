import BuildWorker.Shell.Condition
import BuildWorker.Shell.Builtin.Synopsis
import BuildWorker.Shell.Format
/-!
# Builtins of control, output, directories and jobs

The commands a shell runs itself because they act on its own state: control flow
(`exit`, `return`, `break`, `continue`), the positional parameters (`shift`), output
(`echo`, `printf`), conditions (`test`, `let`), the working directory and its stack
(`cd`, `pwd`, `pushd`, `popd`, `dirs`), signals and jobs (`trap`, `kill`, `wait`) and
the clock (`sleep`).

Each sets the status of the last command; one that fails says why on standard error,
after the shell's name, the line and the builtin's name.  A numeric argument is read as
`test` reads integers.
-/

namespace BuildWorker.Shell

open Text

/-! ## Signals -/

/-- The real-time signals: `RTMIN` (34) up to `RTMIN+15`, then `RTMAX-14` up to
`RTMAX` (64). -/
def realTimeSignals : List (String × Nat) :=
  (List.range 16).map (fun k => (if k == 0 then "RTMIN" else "RTMIN+" ++ toString k, 34 + k)) ++
  (List.range 15).map fun k => (if k == 14 then "RTMAX" else "RTMAX-" ++ toString (14 - k), 50 + k)

/-- Signal names and numbers; 32 and 33 have none. -/
def signalNumbers : List (String × Nat) :=
  [("HUP", 1), ("INT", 2), ("QUIT", 3), ("ILL", 4), ("TRAP", 5), ("ABRT", 6), ("BUS", 7),
    ("FPE", 8), ("KILL", 9), ("USR1", 10), ("SEGV", 11), ("USR2", 12), ("PIPE", 13),
    ("ALRM", 14), ("TERM", 15), ("STKFLT", 16), ("CHLD", 17), ("CONT", 18), ("STOP", 19),
    ("TSTP", 20), ("TTIN", 21), ("TTOU", 22), ("URG", 23), ("XCPU", 24), ("XFSZ", 25),
    ("VTALRM", 26), ("PROF", 27), ("WINCH", 28), ("IO", 29), ("PWR", 30), ("SYS", 31)] ++
  realTimeSignals

/-- The number of a signal written as a number below 65, a name in any case, or a name
with `SIG`; `EXIT` is 0. -/
def signalOf? (text : String) : Option Nat :=
  match readTestInteger text with
  | some n => if 0 ≤ n && n < 65 then some n.toNat else none
  | none =>
      let upper := text.toUpper
      let name := if upper.startsWith "SIG" then String.ofList (upper.toList.drop 3) else upper
      if name == "EXIT" then some 0 else signalNumbers.lookup name

/-- Signals whose default action ends a process. -/
def isFatalSignal (n : Nat) : Bool :=
  n != 0 && n != 17 && n != 18 && n != 23 && n != 28 && n != 19 && n != 20 && n != 21 && n != 22

/-- Signals that stop a process until it is continued. -/
def isStopSignal (n : Nat) : Bool := n == 19 || n == 20 || n == 21 || n == 22

/-! ## Helpers -/

/-- Says why a builtin failed and sets its status. -/
def failBuiltin (name message : String) (status : Nat) : ShellM Unit := do
  complain (name ++ ": " ++ message)
  setStatus status

/-- Reads a status argument: an integer, taken modulo 256. -/
def readStatusArg (s : String) : Option Nat :=
  (readTestInteger s).map fun n => (n % 256).toNat

/-- Drops a leading `--` that ends the options. -/
def dropDashes (args : List String) : List String :=
  match args with
  | "--" :: rest => rest
  | _ => args

/-! ## Control flow -/

/-- `exit`: ends the process with the given status or the last one.  A word that is no
number ends it with status 2; more than one argument is refused, and the rest of the
command is abandoned. -/
def exitBuiltin (args : List String) : ShellM Unit := do
  match dropDashes args with
  | [] => throw .exit
  | a :: rest =>
      match readStatusArg a with
      | some n =>
          if !rest.isEmpty then
            complain "exit: too many arguments"
            setStatus 1
            throw .abort
          setStatus n
          throw .exit
      | none =>
          failBuiltin "exit" (a ++ ": numeric argument required") 2
          throw .exit

/-- `return`: leaves the running function or sourced file with the given status or the
last one.  The status is read before anything is known about what to leave: a word that
is no number is reported (and gives status 2) even where there is nothing to return
from. -/
def returnBuiltin (args : List String) : ShellM Unit := do
  let s ← getShell
  let status ← match dropDashes args with
    | [] => pure s.status
    | a :: rest =>
        match readStatusArg a with
        | some n =>
            if !rest.isEmpty then
              complain "return: too many arguments"
              setStatus 1
              throw .abort
            pure n
        | none =>
            complain ("return: " ++ a ++ ": numeric argument required")
            pure 2
  if s.locals.isEmpty && s.sourceDepth == 0 then
    failBuiltin "return" "can only `return' from a function or sourced script" 2
    return
  setStatus status
  throw .leave

/-- `break` and `continue`: leave or restart enclosing loops, at most as many as there
are.  Outside a loop they only say so.  A count below one leaves every loop, with
status 1; a word that is no number ends the shell. -/
def loopBuiltin (name : String) (args : List String) : ShellM Unit := do
  let depth := (← getShell).loopDepth
  if depth == 0 then
    failBuiltin name "only meaningful in a `for', `while', or `until' loop" 0
    return
  match dropDashes args with
  | [] =>
      setStatus 0
      if name == "break" then throw (.breakLoop 1) else throw (.continueLoop 1)
  | a :: rest =>
      match readTestInteger a with
      | none =>
          complain (name ++ ": " ++ a ++ ": numeric argument required")
          modifyShell fun s => { s with status := s.status ||| 128 }
          throw .exit
      | some n =>
          if !rest.isEmpty then
            complain (name ++ ": too many arguments")
            setStatus 1
            throw .abort
          if n < 1 then
            failBuiltin name (a ++ ": loop count out of range") 1
            throw (.breakLoop depth)
          let n := min n.toNat depth
          setStatus 0
          if name == "break" then throw (.breakLoop n) else throw (.continueLoop n)

/-- `shift`: drops positional parameters; more than there are fails. -/
def shiftBuiltin (args : List String) : ShellM Unit := do
  let n ← match dropDashes args with
    | a :: more =>
        match readTestInteger a with
        | some n =>
            if !more.isEmpty then
              complain "shift: too many arguments"
              setStatus 1
              throw .abort
            if n < 0 then
              failBuiltin "shift" (a ++ ": shift count out of range") 1
              pure none
            else pure (some n.toNat)
        | none =>
            failBuiltin "shift" (a ++ ": numeric argument required") 1
            pure none
    | [] => pure (some 1)
  match n with
  | none => pure ()
  | some n =>
      let s ← getShell
      if n > s.positional.length then setStatus 1
      else
        modifyShell fun s => { s with positional := s.positional.drop n }
        setStatus 0

/-! ## Output -/

/-- `echo`. -/
def echoBuiltin (args : List String) : ShellM Unit := do
  writeOut (echoOutput ((← getShell).shopt "xpg_echo") args)
  setStatus 0

/-- `printf [-v name] format [arguments]`: the output, a line at a time, with the messages
where they arise; or the output into a variable. -/
def printfBuiltin (args : List String) : ShellM Unit := do
  let some (given, args) ← builtinOptions "printf" { withArgument := ['v'] } args | return
  let target := argumentGiven given 'v'
  match args with
  | [] =>
      showSynopsis "printf"
      setStatus 2
  | format :: rest =>
      if let some name := target then
        let base := String.ofList (name.toList.takeWhile (· != '['))
        if !isName base then
          failBuiltin "printf" ("`" ++ name ++ "': not a valid identifier") 2
          return
      let w ← getWorld
      let (out, messages, status) := printfOutput format rest (w.epoch + Int.ofNat (w.clock / 1000000)) w.epoch
      match target with
      | some name =>
          for (_, m) in messages do complain ("printf: " ++ m)
          let text := decodeLossy out
          let ok ← match name.toList.idxOf? '[' with
            | some k =>
                let base := String.ofList (name.toList.take k)
                let sub := String.ofList ((name.toList.drop (k + 1)).takeWhile (· != ']'))
                let slot := if (← getShell).isAssoc base then Slot.key sub else .index ((sub.toInt?).getD 0)
                setValue base (some slot) text false
            | none => setValue name none text false
          setStatus (if ok then status else 1)
      | none =>
          let mut flushed := 0
          for (upTo, m) in messages do
            let next := flushedBefore out flushed upTo
            writeOut ((out.take next).drop flushed)
            flushed := next
            complain ("printf: " ++ m)
          writeOut (out.drop flushed)
          setStatus status

/-! ## Conditions -/

/-- `test` and `[`. -/
def testBuiltin (name : String) (args : List String) : ShellM Unit := do
  let args ←
    if name == "[" then
      match args.getLast? with
      | some "]" => pure (some args.dropLast)
      | _ =>
          failBuiltin "[" "missing `]'" 2
          pure none
    else pure (some args)
  match args with
  | none => pure ()
  | some args =>
      let s ← getShell
      match evalTest (s.testContext (← getWorld).files) args with
      | .ok b => setStatus (if b then 0 else 1)
      | .error msg => failBuiltin name msg 2

/-- `let`: evaluates expressions; true when the last is not zero. -/
def letBuiltin (args : List String) : ShellM Unit := do
  if args.isEmpty then
    failBuiltin "let" "expression expected" 1
    return
  let mut last : Int := 0
  for a in args do
    match ← evalArith a with
    | .ok v => last := v
    | .error f =>
        reportArith "let" f
        setStatus 1
        return
  setStatus (if last == 0 then 1 else 0)

/-! ## Directories -/

/-- A directory as `dirs` writes it: the home directory as `~`. -/
def shortDirectory (s : ShellState) (dir : String) : String :=
  match lookupVar s "HOME" with
  | some home =>
      if home.isEmpty || home == "/" then dir
      else if dir == home then "~"
      else if dir.startsWith (home ++ "/") then "~" ++ String.ofList (dir.toList.drop home.length)
      else dir
  | none => dir

/-- Moves to a directory, setting `PWD` and `OLDPWD`; says why it cannot. -/
def changeDirectory (name dir : String) : ShellM Bool := do
  let s ← getShell
  let path := resolvePath s.cwd dir
  match (← getWorld).files.get? path with
  | some .dir =>
      let old := (lookupVar s "PWD").getD s.cwdText
      modifyShell fun s => ({ s with cwd := path }.setVar "OLDPWD" old).setVar "PWD" (hostPathText path)
      pure true
  | some _ =>
      failBuiltin name (dir ++ ": Not a directory") 1
      pure false
  | none =>
      failBuiltin name (dir ++ ": No such file or directory") 1
      pure false

/-- `cd`: changes the working directory, by default to `HOME`, with `-` to the last one
(and says where it went). -/
def cdBuiltin (args : List String) : ShellM Unit := do
  let s ← getShell
  let some (_, args) ← builtinOptions "cd" { flags := ['e', 'L', 'P', '@'] } args | return
  let target ← match args with
    | [] =>
        match lookupVar s "HOME" with
        | some h => pure (some h)
        | none =>
            failBuiltin "cd" "HOME not set" 1
            pure none
    | ["-"] =>
        match lookupVar s "OLDPWD" with
        | some h => pure (some h)
        | none =>
            failBuiltin "cd" "OLDPWD not set" 1
            pure none
    | [d] => pure (some d)
    | _ =>
        failBuiltin "cd" "too many arguments" 1
        pure none
  match target with
  | none => pure ()
  | some dir =>
      if ← changeDirectory "cd" dir then
        if args == ["-"] then printOut ((← getShell).cwdText ++ "\n")
        setStatus 0

/-- `pwd`: the working directory. -/
def pwdBuiltin (args : List String) : ShellM Unit := do
  let some _ ← builtinOptions "pwd" { flags := ['L', 'P'] } args | return
  let s ← getShell
  printOut (((lookupVar s "PWD").getD s.cwdText) ++ "\n")
  setStatus 0

/-- The directory stack with the working directory on top. -/
def ShellState.directoryStack (s : ShellState) : List String :=
  ((lookupVar s "PWD").getD s.cwdText) :: s.dirStack

/-- Writes the directory stack: on one line, or one per line, numbered with `-v`. -/
def printDirectories (long perLine numbered : Bool) : ShellM Unit := do
  let s ← getShell
  let dirs := s.directoryStack.map fun d => if long then d else shortDirectory s d
  if numbered then
    printOut (String.join (dirs.zipIdx.map fun (d, i) =>
      let n := toString i
      String.ofList (List.replicate (2 - min 2 n.length) ' ') ++ n ++ "  " ++ d ++ "\n"))
  else if perLine then printOut (String.join (dirs.map (· ++ "\n")))
  else printOut (" ".intercalate dirs ++ "\n")

/-- A stack position written `+N` (from the top) or `-N` (from the bottom): the sign and
the number, if the rest is a number. -/
def stackPosition? (w : String) : Option (Bool × Nat) :=
  match w.toList with
  | sign :: rest =>
      if sign == '+' || sign == '-' then
        (readTestInteger (String.ofList rest)).bind fun n =>
          if n < 0 then none else some (sign == '+', n.toNat)
      else none
  | [] => none

/-- Refuses a word of a directory-stack builtin: says why, shows the synopsis, and sets
status 2. -/
def refuseStackWord (name message : String) : ShellM Unit := do
  complain (name ++ ": " ++ message)
  showSynopsis name
  setStatus 2

/-- Says that a position is not on the directory stack. -/
def stackOutOfRange (name : String) (depth : Nat) (written : String) : ShellM Unit :=
  if depth == 0 then failBuiltin name "directory stack empty" 1
  else failBuiltin name (written ++ ": directory stack index out of range") 1

/-- `dirs`: the directory stack, or one entry of it by position; `-c` clears it, `-l`
writes directories in full, `-p` one per line, `-v` numbered. -/
def dirsBuiltin (args : List String) : ShellM Unit := do
  let mut long := false
  let mut perLine := false
  let mut numbered := false
  let mut clear := false
  let mut position : Option (Bool × Nat) := none
  for a in args do
    if a == "--" then break
    else if a == "-l" then long := true
    else if a == "-p" then perLine := true
    else if a == "-v" then
      perLine := true
      numbered := true
    else if a == "-c" then clear := true
    else if a.startsWith "+" || a.startsWith "-" then
      match stackPosition? a with
      | some p => position := some p
      | none =>
          refuseStackWord "dirs" (a ++ ": invalid number")
          return
    else
      refuseStackWord "dirs" (a ++ ": invalid option")
      return
  if clear then
    modifyShell fun s => { s with dirStack := [] }
    setStatus 0
    return
  match position with
  | none =>
      printDirectories long perLine numbered
      setStatus 0
  | some (fromTop, n) =>
      let s ← getShell
      let stack := s.directoryStack
      if n ≥ stack.length then
        failBuiltin "dirs" (toString n ++ ": directory stack index out of range") 1
      else
        let k := if fromTop then n else stack.length - 1 - n
        let dir := stack.getD k ""
        let shown := if long then dir else shortDirectory s dir
        printOut ((if numbered then String.ofList (List.replicate (2 - min 2 (toString k).length) ' ') ++ toString k ++ "  " else "") ++ shown ++ "\n")
        setStatus 0

/-- `pushd dir`: puts the working directory on the stack and moves to `dir` (with `-n`
only puts `dir` under the top); `pushd +N` or `-N` turns the stack until that entry is
on top; with no argument the top two change places.  It writes the stack after. -/
def pushdBuiltin (args : List String) : ShellM Unit := do
  let s ← getShell
  let here := (lookupVar s "PWD").getD s.cwdText
  let depth := s.dirStack.length
  let (skip, args) := match args with
    | "--" :: rest => (true, rest)
    | _ => (false, args)
  if args.isEmpty then
    match s.dirStack with
    | top :: rest =>
        if ← changeDirectory "pushd" top then
          modifyShell fun s => { s with dirStack := here :: rest }
          printDirectories false false false
          setStatus 0
    | [] => failBuiltin "pushd" "no other directory" 1
    return
  let mut quiet := false
  let mut turn : Option Nat := none
  let mut rest := args
  if !skip then
    for a in args do
      if a == "-n" then
        quiet := true
        rest := rest.drop 1
      else if a == "--" then
        rest := rest.drop 1
        break
      else if a == "-" then break
      else if a.startsWith "+" || a.startsWith "-" then
        match stackPosition? a with
        | none =>
            refuseStackWord "pushd" (a ++ ": invalid number")
            return
        | some (fromTop, n) =>
            let num : Int := if fromTop then n else Int.ofNat depth - n
            if num > depth || num < 0 then
              stackOutOfRange "pushd" depth a
              return
            turn := some num.toNat
            rest := rest.drop 1
      else break
  match turn with
  | some num =>
      let full := here :: s.dirStack
      let turned := full.drop num ++ full.take num
      match turned with
      | top :: below =>
          if quiet then
            modifyShell fun s => { s with dirStack := below }
            setStatus 0
          else if ← changeDirectory "pushd" top then
            modifyShell fun s => { s with dirStack := below }
            printDirectories false false false
            setStatus 0
      | [] => setStatus 0
  | none =>
      match rest with
      | [] => setStatus 0
      | [dir] =>
          if quiet then
            modifyShell fun s => { s with dirStack := dir :: s.dirStack }
            printDirectories false false false
            setStatus 0
          else if ← changeDirectory "pushd" dir then
            modifyShell fun s => { s with dirStack := here :: s.dirStack }
            printDirectories false false false
            setStatus 0
      | _ => failBuiltin "pushd" "too many arguments" 1

/-- `popd`: takes the top of the stack off and moves to the next (with `-n` only takes
the entry under the top off); `popd +N` or `-N` takes that entry off.  It writes the
stack after. -/
def popdBuiltin (args : List String) : ShellM Unit := do
  let mut quiet := false
  let mut position : Option (Bool × Nat × String) := none
  for a in args do
    if a == "-n" then quiet := true
    else if a == "--" then break
    else if a.startsWith "+" || a.startsWith "-" then
      match stackPosition? a with
      | some (fromTop, n) => position := some (fromTop, n, a)
      | none =>
          refuseStackWord "popd" (a ++ ": invalid number")
          return
    else if !a.isEmpty then
      refuseStackWord "popd" (a ++ ": invalid argument")
      return
    else break
  let s ← getShell
  let depth := s.dirStack.length
  let (fromTop, n, written) := position.getD (true, 0, "")
  let k : Int := if fromTop then n else Int.ofNat depth - n
  if k > depth || k < 0 || depth == 0 then
    stackOutOfRange "popd" depth written
    return
  if k == 0 then
    match s.dirStack with
    | next :: rest =>
        if quiet then
          modifyShell fun s => { s with dirStack := rest }
        else if ← changeDirectory "popd" next then
          modifyShell fun s => { s with dirStack := rest }
        else return
    | [] => pure ()
  else
    modifyShell fun s => { s with dirStack := s.dirStack.eraseIdx (k.toNat - 1) }
  printDirectories false false false
  setStatus 0

/-! ## Signals and jobs -/

/-- The condition a word of `trap` names: `EXIT` (also `0`), `ERR`, `DEBUG`, `RETURN`,
or a signal's name without `SIG`. -/
def trapCondition? (text : String) : Option String :=
  let upper := text.toUpper
  let name := if upper.startsWith "SIG" then String.ofList (upper.toList.drop 3) else upper
  if name == "EXIT" || name == "0" then some "EXIT"
  else if name == "ERR" || name == "DEBUG" || name == "RETURN" then some name
  else match text.toNat? with
    | some n => (signalNumbers.find? (·.2 == n)).map (·.1)
    | none => if (signalNumbers.lookup name).isSome then some name else none

/-- The order in which `trap` lists conditions: `EXIT` first, then by signal number. -/
def trapRank (name : String) : Nat :=
  if name == "EXIT" then 0 else ((signalNumbers.lookup name).getD 64)

/-- A trap action quoted for a listing. -/
def quoteTrapAction (action : String) : String :=
  "'" ++ String.join (action.toList.map fun c => if c == '\'' then "'\\''" else c.toString) ++ "'"

/-- The listing of `trap -l` and `kill -l`: the signals, five to a line, each after a tab
but the last of a full line, and a line feed after a last line that is not full. -/
def signalListing : String :=
  let cells := signalNumbers.map fun (name, n) =>
    let num := toString n
    String.ofList (List.replicate (2 - min 2 num.length) ' ') ++ num ++ ") SIG" ++ name
  let laid := cells.zipIdx.map fun (cell, i) => cell ++ (if i % 5 == 4 then "\n" else "\t")
  String.join laid ++ (if cells.length % 5 == 0 then "" else "\n")

/-- `trap`: sets the action for conditions, or lists the actions set (`-p`, or no
words) or the signals (`-l`).  The action `-` resets the conditions and an empty action
ignores them; a first word that is a signal number, or a lone word that is a condition,
resets the conditions named. -/
def trapBuiltin (args : List String) : ShellM Unit := do
  let some (given, args) ← builtinOptions "trap" { flags := ['l', 'p'] } args | return
  let list (names : List String) : ShellM Unit := do
    let s ← getShell
    let sorted := s.traps.mergeSort fun a b => trapRank a.1 ≤ trapRank b.1
    let mut status := 0
    let mut chosen : Option (List String) := none
    if !names.isEmpty then
      let mut found : List String := []
      for n in names do
        match trapCondition? n with
        | some c => found := found ++ [c]
        | none =>
            complain ("trap: " ++ n ++ ": invalid signal specification")
            status := 1
      chosen := some found
    let shown : List (String × String) := match chosen with
      | some ns => sorted.filter fun (n, _) => ns.contains n
      | none => sorted
    for (name, action) in shown do
      printOut ("trap -- " ++ quoteTrapAction action ++ " " ++
        (if name == "EXIT" || name == "ERR" || name == "DEBUG" || name == "RETURN" then name
         else "SIG" ++ name) ++ "\n")
    setStatus status
  if flagGiven given 'l' then
    printOut signalListing
    setStatus 0
  else if flagGiven given 'p' || args.isEmpty then list args
  else
    match args with
    | [] => list []
    | first :: more =>
        let firstIsSignal := !first.isEmpty && first.all Char.isDigit && (trapCondition? first).isSome
        let lone := more.isEmpty && first != "-" && !first.isEmpty && (trapCondition? first).isSome
        let (action, conditions) : Option String × List String :=
          if firstIsSignal || lone then (none, args)
          else (some first, more)
        if conditions.isEmpty then
          showSynopsis "trap"
          setStatus 2
          return
        let action := action.filter (· != "-")
        setStatus 0
        for c in conditions do
          match trapCondition? c with
          | some name =>
              modifyShell fun s =>
                let others := s.traps.filter (·.1 != name)
                { s with traps := match action with
                    | some a => others ++ [(name, a)]
                    | none => others }
          | none => failBuiltin "trap" (c ++ ": invalid signal specification") 1

/-- Microseconds that stand for a sleep without end. -/
def foreverMicros : Nat := Nat.pow 10 15

/-- Reads a duration of `sleep` in microseconds: a number as the C library reads one
(leading blanks, a sign, decimal or hexadecimal digits with an exponent, or an
infinity), not below zero, with at most one more character, a unit `s`, `m`, `h` or `d`.
An infinity, or a value too large to count, is a sleep without end. -/
def readDuration (text : String) : Option Nat :=
  let (x, _, rest) := Text.Extended.readPrefix text.toList
  if rest.length == text.length then none
  else
    let unit : Option Nat := match rest with
      | [] => some 1
      | ['s'] => some 1
      | ['m'] => some 60
      | ['h'] => some 3600
      | ['d'] => some 86400
      | _ => none
    unit.bind fun u =>
      match x with
      | .finite true m _ => if m == 0 then some 0 else none
      | .finite false m e =>
          if e > 64 then some foreverMicros
          else some (min foreverMicros (Text.Extended.scaledDown (m * 1000000 * u) 1 (-e)))
      | .infinity false => some foreverMicros
      | _ => none

/-- The first word of `sleep` that is an option, in the order options are looked for:
before a `--`, a word of a dash and more. -/
def sleepOption? : List String → Option String
  | [] => none
  | "--" :: _ => none
  | a :: rest => if a.startsWith "-" && a.length > 1 then some a else sleepOption? rest

/-- `sleep`: lets time pass, the sum of its durations.  An option refuses the command
(it takes none of its own), and so does any duration it cannot read, each named. -/
def sleepBuiltin (args : List String) : ShellM Unit := do
  let hint := "Try 'sleep --help' for more information.\n"
  if args.isEmpty then
    writeErr (encode ("sleep: missing operand\n" ++ hint))
    setStatus 1
    return
  if let some o := sleepOption? args then
    let said := if o.startsWith "--" then "unrecognized option '" ++ o ++ "'"
      else "invalid option -- '" ++ ((o.toList.drop 1).headD ' ').toString ++ "'"
    writeErr (encode ("sleep: " ++ said ++ "\n" ++ hint))
    setStatus 1
    return
  let mut total := 0
  let mut failed := false
  for a in args.erase "--" do
    match readDuration a with
    | some d => total := total + d
    | none =>
        writeErr (encode ("sleep: invalid time interval ‘" ++ a ++ "’\n"))
        failed := true
  if failed then
    writeErr (encode hint)
    setStatus 1
    return
  sleepFor total
  setStatus 0

/-- Stops a background job now: what it would write later is dropped, and it ends with
the signal. -/
def killJob (pid : Nat) (signal : Nat) : ShellM Unit := do
  let w ← getWorld
  let now := w.clock
  modifyWorld fun w =>
    { w with
      written := w.written.filter (fun x => !(x.job == pid && x.time > now)),
      jobs := w.jobs.map fun j =>
        if j.pid == pid then
          match j.finish with
          | some (t, _) => if t ≤ now then j else { j with finish := some (now, 128 + signal) }
          | none => { j with finish := some (now, 128 + signal) }
        else j }

/-- What `kill -l` writes about one word: the name of a signal number (an exit status
above 128 standing for the signal it ends with), or the number of a name. -/
def signalLine (word : String) : Except String String :=
  match readTestInteger word with
  | some n =>
      let n := if n > 128 then n - 128 else n
      if n < 0 || n ≥ 65 then .error word
      else if n == 0 then .ok "EXIT\n"
      else .ok (((signalNumbers.find? (·.2 == n.toNat)).map (·.1 ++ "\n")).getD "")
  | none =>
      match signalOf? word with
      | some k => .ok (toString k ++ "\n")
      | none => .error word

/-- `kill`: sends a signal (by default `TERM`) to processes: the shell itself, the shell
that started the run, or a background job; `-l` lists the signals, or names those given.
The signal is given as `-s name`, `-n number`, or `-name` before the processes. -/
def killBuiltin (args : List String) : ShellM Unit := do
  if args.isEmpty then
    showSynopsis "kill"
    setStatus 2
    return
  let mut listing := false
  let mut spec := "TERM"
  let mut sawSignal := false
  let mut rest := args
  for _ in args do
    match rest with
    | [] => break
    | w :: more =>
        if w == "-l" || w == "-L" then
          listing := true
          rest := more
        else if w == "-s" || w == "-n" then
          match more with
          | given :: after =>
              spec := given
              sawSignal := true
              rest := after
          | [] =>
              failBuiltin "kill" (w ++ ": option requires an argument") 1
              return
        else if (w.startsWith "-s" && ((w.toList.drop 2).head?.map Char.isAlpha).getD false) ||
            (w.startsWith "-n" && ((w.toList.drop 2).head?.map Char.isDigit).getD false) then
          spec := String.ofList (w.toList.drop 2)
          sawSignal := true
          rest := more
        else if w == "--" then
          rest := more
          break
        else if w == "-?" then
          showSynopsis "kill"
          setStatus 2
          return
        else if w.startsWith "-" && !sawSignal then
          spec := String.ofList (w.toList.drop 1)
          sawSignal := true
          rest := more
        else break
  if listing then
    if rest.isEmpty then
      printOut signalListing
      setStatus 0
    else
      setStatus 0
      for word in rest do
        match signalLine word with
        | .ok line => printOut line
        | .error bad => failBuiltin "kill" (bad ++ ": invalid signal specification") 1
    return
  let some sig := signalOf? spec
    | failBuiltin "kill" (spec ++ ": invalid signal specification") 1
  if rest.isEmpty then
    showSynopsis "kill"
    setStatus 2
    return
  setStatus 0
  for t in rest do
    let s ← getShell
    let w ← getWorld
    if t.startsWith "%" then
      failBuiltin "kill" (t ++ ": no such job") 1
    else
    match t.toNat? with
    | none => failBuiltin "kill" (t ++ ": arguments must be process or job IDs") 1
    | some pid =>
        if sig == 0 then
          let running := w.jobs.any fun j => j.pid == pid && (j.finish.map fun f => decide (f.1 > w.clock)).getD true
          if !(pid == s.pid || pid == s.topPid || running) then
            failBuiltin "kill" ("(" ++ t ++ ") - No such process") 1
        else if pid == s.pid then
          let trapped := if sig == 9 || sig == 19 then none
            else (signalNumbers.find? (·.2 == sig)).bind fun (name, _) => s.traps.lookup name
          -- the shell itself ignores `QUIT`, and a job in the background `INT` as well
          let ignored := (sig == 3 && (s.subshellDepth == 0 || s.job != 0)) || (sig == 2 && s.job != 0)
          match trapped with
          | some action =>
              if !action.isEmpty then
                modifyShell fun s => { s with pendingSignals := s.pendingSignals ++ [sig] }
          | none =>
              if ignored then pure ()
              else if isFatalSignal sig then throw (.killed sig)
              else if isStopSignal sig then sleepFor (w.horizon - w.clock)
        else if pid == s.topPid then
          if isFatalSignal sig && w.topSignal.isNone then
            modifyWorld fun w => { w with topSignal := some (sig, w.clock) }
        else if w.jobs.any (·.pid == pid) then
          if isFatalSignal sig then killJob pid sig
        else failBuiltin "kill" ("(" ++ t ++ ") - No such process") 1

/-- `wait`: waits for background jobs of this shell, all of them or those named, or with
`-n` the next to end; the status is that of the last one named.  With `-p name` the
process id of the job waited for goes into `name`. -/
def waitBuiltin (args : List String) : ShellM Unit := do
  let some (given, args) ← builtinOptions "wait" { flags := ['f', 'n'], withArgument := ['p'] } args | return
  let s ← getShell
  let w ← getWorld
  let mine := w.jobs.filter (·.parent == s.pid)
  let pids := args.filterMap String.toNat?
  let unfinished (j : BackgroundJob) : Bool := (j.finish.map fun f => decide (f.1 > w.clock)).getD true
  if flagGiven given 'n' && args.isEmpty then
    -- the next job to end, or status 127 when none is left
    let waiting := mine.filter unfinished
    let next := waiting.foldl (fun best j => match best, j.finish with
      | none, _ => some j
      | some b, some (t, _) => if (b.finish.map (·.1)).all (t < ·) then some j else some b
      | some b, none => some b) none
    match next with
    | none => setStatus 127
    | some j =>
        match j.finish with
        | some (t, status) =>
            modifyWorld fun w => { w with clock := max w.clock t }
            if let some v := argumentGiven given 'p' then setVar v (toString j.pid)
            setStatus status
        | none =>
            sleepFor (w.horizon - w.clock)
            setStatus 0
    return
  let chosen := if args.isEmpty then mine else mine.filter (fun j => pids.contains j.pid)
  if chosen.any (·.finish.isNone) then sleepFor (w.horizon - w.clock)
  let latest := chosen.foldl (fun t j => match j.finish with
    | some (e, _) => max t e
    | none => t) w.clock
  modifyWorld fun w => { w with clock := max w.clock latest }
  setStatus 0
  for a in args do
    if a.startsWith "%" then failBuiltin "wait" (a ++ ": no such job") 127
    else
      match a.toNat? with
      | none => failBuiltin "wait" ("`" ++ a ++ "': not a pid or valid job spec") 1
      | some p =>
          match chosen.find? (·.pid == p) with
          | some j =>
              if let some v := argumentGiven given 'p' then setVar v (toString p)
              setStatus ((j.finish.map (·.2)).getD 0)
          | none => failBuiltin "wait" ("pid " ++ toString p ++ " is not a child of this shell") 127

/-! ## Process settings -/

/-- The permissions a file creation mask leaves, written `u=...,g=...,o=...`. -/
def symbolicMask (mask : Nat) : String :=
  let part (shift : Nat) : String :=
    let bits := mask / Nat.pow 2 shift % 8
    (if bits / 4 % 2 == 0 then "r" else "") ++ (if bits / 2 % 2 == 0 then "w" else "") ++
      (if bits % 2 == 0 then "x" else "")
  "u=" ++ part 6 ++ ",g=" ++ part 3 ++ ",o=" ++ part 0

/-- Applies a symbolic mode (clauses `[ugoa]*[+-=][rwx]*` apart by commas) to the
permissions a mask leaves: the new permissions, or the operator that is not one. -/
def applySymbolicMode (allowed : Nat) : Nat → List Char → Except String Nat
  | 0, _ => .ok allowed
  | fuel + 1, cs =>
      let whoChars := cs.takeWhile fun c => "agou".toList.contains c
      let who := whoChars.foldl (fun w c => w ||| match c with
        | 'u' => 0o700
        | 'g' => 0o070
        | 'o' => 0o007
        | _ => 0o777) 0
      match cs.drop whoChars.length with
      | op :: afterOp =>
          if op != '+' && op != '-' && op != '=' then .error op.toString
          else
            let permChars := afterOp.takeWhile fun c => "rwx".toList.contains c
            let perm := permChars.foldl (fun p c => p ||| match c with
              | 'r' => 0o444
              | 'w' => 0o222
              | _ => 0o111) 0
            let who := if who == 0 then 0o777 else who
            let perm := perm &&& who
            let bits :=
              if op == '+' then allowed ||| perm
              else if op == '-' then allowed &&& (0o777 - perm)
              else (allowed &&& (0o777 - who)) ||| perm
            match afterOp.drop permChars.length with
            | [] => .ok bits
            | _ :: more => applySymbolicMode bits fuel more
      | [] => .error (Char.ofNat 0).toString

/-- `umask`: writes the file creation mask (as four octal digits, or with `-S` as the
permissions it leaves; `-p` as a command), or sets it from octal digits or a symbolic
mode. -/
def umaskBuiltin (args : List String) : ShellM Unit := do
  let some (given, args) ← builtinOptions "umask" { flags := ['S', 'p'] } args | return
  let symbolic := flagGiven given 'S'
  match args with
  | [] =>
      let mask := (← getShell).umask
      let digits := String.ofList ((Nat.toDigits 8 mask))
      let octal := String.ofList (List.replicate (4 - min 4 digits.length) '0') ++ digits
      if flagGiven given 'p' then printOut ("umask" ++ (if symbolic then " -S" else "") ++ " ")
      printOut ((if symbolic then symbolicMask mask else octal) ++ "\n")
      setStatus 0
  | mode :: _ =>
      let current := (← getShell).umask
      let result : Except String Nat :=
        if mode.toList.head?.any Char.isDigit then
          if mode.all fun c => '0' ≤ c && c ≤ '7' then
            let v := mode.foldl (fun n c => n * 8 + (c.toNat - '0'.toNat)) 0
            if v > 0o7777 then .error "" else .ok (v % 0o1000)
          else .error ""
        else
          (applySymbolicMode (0o777 - current) (mode.length + 1) mode.toList).map
            fun bits => 0o777 - bits
      match result with
      | .ok mask =>
          modifyShell fun s => { s with umask := mask }
          if symbolic then printOut (symbolicMask mask ++ "\n")
          setStatus 0
      | .error op =>
          if mode.toList.head?.any Char.isDigit then
            failBuiltin "umask" (mode ++ ": octal number out of range") 1
          else failBuiltin "umask" ("`" ++ op ++ "': invalid symbolic mode operator") 1

/-- `times`: the times used, all zero. -/
def timesBuiltin (args : List String) : ShellM Unit := do
  let some _ ← builtinOptions "times" {} args | return
  printOut "0m0.000s 0m0.000s\n0m0.000s 0m0.000s\n"
  setStatus 0

end BuildWorker.Shell
