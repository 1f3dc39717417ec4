import BuildWorker.Proofs.Script.Grammar
/-!
# Running commands

The commands of `Posix.parse` run in a shell whose state is `Shell`: the functions
defined so far, the variables, the positional parameters of the function that runs,
the status of the last command (`$?`), and the external commands that ran, in order.

The shell runs its builtins itself (`:`, `return`, `exit`, `export`) and the functions
the script defines; every other command is external, and the world says how it ends.
The world answers with a status for each external command, given the ones that ran
before it, so a run can be made to fail at any command and in any pattern.  `eval` is
such a command: what it evaluates is text of the job, not part of the script.

`exec` runs one command with fuel, one unit for each command it opens (a function's body
included), and says how it ended (`Flow`): normally, by `return`, or by `exit`.  A
subshell keeps only its status and the commands it ran.  Expansion covers the
parameters that build scripts use (`$?`, `$1`, `$name`, `${name}`, `${name:-word}`);
an expansion outside quotes would be split into fields and matched as a pattern, so
only `$?`, whose value is digits, is taken outside quotes.
-/

set_option autoImplicit false

namespace BuildWorker.Posix

/-! ## The shell and its world -/

/-- The external commands that ran, each as its expanded words, in order. -/
abbrev Calls := List (List String)

/-- The status of each external command, given the external commands that ran before
it. -/
abbrev World := Calls → List String → UInt8

/-- The state of a running shell. -/
structure Shell where
  /-- The functions defined so far, the latest first. -/
  functions : List (String × Command) := []
  /-- The variables set so far, the latest first. -/
  vars : List (String × String) := []
  /-- The positional parameters, `$1` first. -/
  args : List String := []
  /-- The status of the last command, `$?`. -/
  status : UInt8 := 0
  /-- The external commands that ran. -/
  calls : Calls := []

/-- How a command ended. -/
inductive Flow where
  /-- Normally: the next command runs. -/
  | next
  /-- By `return`: the function ends. -/
  | returned
  /-- By `exit`: the shell ends. -/
  | exited
  deriving DecidableEq, Repr

/-! ## Expansion -/

namespace Shell

/-- The value of a variable, empty when it is unset. -/
def lookup (sh : Shell) (name : String) : String :=
  match sh.vars.find? (·.1 == name) with
  | some (_, v) => v
  | none => ""

/-- The value of what stands inside `${...}`: `name`, or `name:-word`, which is the word
when the variable is unset or empty. -/
def braced (sh : Shell) (inner : List Char) : Option String :=
  match inner.span (· != ':') with
  | (name, []) => if isName name then some (sh.lookup (String.ofList name)) else none
  | (name, ':' :: '-' :: word) =>
      if isName name && word.all isDoubleLiteral then
        some (if (sh.lookup (String.ofList name)).isEmpty then String.ofList word
          else sh.lookup (String.ofList name))
      else none
  | _ => none

/-- The value of an expansion, as written. -/
def parameter (sh : Shell) : List Char → Option String
  | ['$', '?'] => some (toString sh.status.toNat)
  | '$' :: '{' :: rest =>
      match rest.reverse with
      | '}' :: inner => sh.braced inner.reverse
      | _ => none
  | ['$', d] =>
      if d.isDigit && d != '0' then some (sh.args.getD (d.toNat - '1'.toNat) "")
      else if isName [d] then some (sh.lookup (String.ofList [d])) else none
  | '$' :: name => if isName name then some (sh.lookup (String.ofList name)) else none
  | _ => none

/-- A word once expanded, or none when an expansion in it is outside the language. -/
def expandWord (sh : Shell) : List Piece → Option (List Char)
  | [] => some []
  | .literal c :: w => (sh.expandWord w).map (c :: ·)
  | .expansion quoted text :: w =>
      if quoted || text == ['$', '?'] then
        (sh.parameter text).bind fun v => (sh.expandWord w).map (v.toList ++ ·)
      else none

/-- The words of a simple command, expanded. -/
def expandWords (sh : Shell) (ws : List (List Piece)) : Option (List String) :=
  ws.mapM fun w => (sh.expandWord w).map String.ofList

/-! ## Builtins -/

/-- The status that `return` or `exit` ends with: the argument modulo 256, or with none
the status of the last command. -/
def statusArg (sh : Shell) : List String → Option UInt8
  | [] => some sh.status
  | [n] => n.toNat?.map UInt8.ofNat
  | _ => none

/-- `export`: each `name=value` sets the variable; a name alone changes nothing here. -/
def exportVars (sh : Shell) : List String → Option Shell
  | [] => some sh
  | a :: rest =>
      match a.toList.span (· != '=') with
      | (name, '=' :: value) =>
          if isName name then
            exportVars { sh with vars := (String.ofList name, String.ofList value) :: sh.vars } rest
          else none
      | (name, _) => if isName name then exportVars sh rest else none

/-- The function of a name, the latest defined. -/
def function? (sh : Shell) (name : String) : Option Command :=
  (sh.functions.find? (·.1 == name)).map (·.2)

/-- An external command runs: the world gives its status. -/
def external (sh : Shell) (world : World) (argv : List String) : Shell :=
  { sh with status := world sh.calls argv, calls := sh.calls ++ [argv] }

end Shell

/-! ## Running commands -/

/-- Runs the commands of a list one after the other, until one does not end normally. -/
def execList (run : Shell → Command → Option (Shell × Flow)) :
    Shell → List Command → Option (Shell × Flow)
  | sh, [] => some (sh, .next)
  | sh, c :: cs => (run sh c).bind fun r =>
      if r.2 = .next then execList run r.1 cs else some r

/-- Whether the right command of an and-or list runs after the left one ended with the
given status: after `&&` on success, after `||` on failure. -/
def Connector.continues (k : Connector) (status : UInt8) : Bool :=
  match k with
  | .and => status == 0
  | .or => status != 0

/-- Runs one command with fuel, and says how it ended; none when it runs out of fuel
or does what is outside the language. -/
def exec (world : World) : Nat → Shell → Command → Option (Shell × Flow)
  | 0, _, _ => none
  | n + 1, sh, .simple words =>
      (sh.expandWords words).bind fun argv =>
        match argv with
        | [] => some (sh, .next)
        | name :: args =>
            if name = ":" then some ({ sh with status := 0 }, .next)
            else if name = "return" then (sh.statusArg args).map fun s => ({ sh with status := s }, .returned)
            else if name = "exit" then (sh.statusArg args).map fun s => ({ sh with status := s }, .exited)
            else if name = "export" then (sh.exportVars args).map fun sh' => ({ sh' with status := 0 }, .next)
            else match sh.function? name with
              | some body =>
                  -- the call has its own positional parameters; `return` ends only the call
                  (exec world n { sh with args := args } body).map fun r =>
                    ({ r.1 with args := sh.args }, if r.2 = .exited then .exited else .next)
              | none => some (sh.external world argv, .next)
  | n + 1, sh, .bang c =>
      (exec world n sh c).map fun r =>
        if r.2 = .next then ({ r.1 with status := if r.1.status = 0 then 1 else 0 }, .next) else r
  | n + 1, sh, .join l k r =>
      (exec world n sh l).bind fun left =>
        if left.2 = .next && k.continues left.1.status then exec world n left.1 r else some left
  | n + 1, sh, .group body => execList (exec world n) sh body
  | n + 1, sh, .subshell body =>
      -- a subshell keeps nothing of its own but its status and the commands it ran
      (execList (exec world n) sh body).map fun r =>
        ({ sh with status := r.1.status, calls := r.1.calls }, .next)
  | n + 1, sh, .ifThen cond thenPart elsePart =>
      (execList (exec world n) sh cond).bind fun c =>
        if c.2 ≠ .next then some c
        else if c.1.status = 0 then execList (exec world n) c.1 thenPart
        else match elsePart with
          | some e => execList (exec world n) c.1 e
          | none => some ({ c.1 with status := 0 }, .next)
  | _ + 1, sh, .function name body =>
      some ({ sh with functions := (name, body) :: sh.functions, status := 0 }, .next)

/-- What a script does: the external commands it runs and the status it ends with. -/
def runScript (world : World) (fuel : Nat) (script : List Command) : Option (Calls × UInt8) :=
  (execList (exec world fuel) {} script).map fun r => (r.1.calls, r.1.status)

/-- What a text does when the shell reads and runs it. -/
def runText (world : World) (fuel : Nat) (text : String) : Option (Calls × UInt8) :=
  ((readTokens text.toList).bind parse).bind (runScript world fuel)

/-! ## Equations -/

theorem execList_cons_next {run : Shell → Command → Option (Shell × Flow)} {sh sh' : Shell}
    {c : Command} (cs : List Command) (h : run sh c = some (sh', .next)) :
    execList run sh (c :: cs) = execList run sh' cs := by
  simp [execList, h]

theorem execList_cons_stop {run : Shell → Command → Option (Shell × Flow)} {sh sh' : Shell}
    {c : Command} {flow : Flow} (cs : List Command) (h : run sh c = some (sh', flow))
    (hflow : flow ≠ .next) : execList run sh (c :: cs) = some (sh', flow) := by
  simp [execList, h, hflow]

/-- Running two lists one after the other: the second runs when the first ended
normally. -/
theorem execList_append_next {run : Shell → Command → Option (Shell × Flow)} {sh sh' : Shell}
    {xs : List Command} (ys : List Command) (h : execList run sh xs = some (sh', .next)) :
    execList run sh (xs ++ ys) = execList run sh' ys := by
  induction xs generalizing sh with
  | nil =>
      simp only [execList, Option.some.injEq, Prod.mk.injEq] at h
      rw [h.1]
      rfl
  | cons c cs ih =>
      simp only [execList] at h
      cases hc : run sh c with
      | none => simp [hc] at h
      | some r =>
          rw [hc] at h
          by_cases hflow : r.2 = .next
          · simp only [Option.bind_some, hflow, if_true] at h
            rw [List.cons_append, execList_cons_next _ (show run sh c = some (r.1, .next) by rw [hc, ← hflow]),
              ih h]
          · simp only [Option.bind_some, hflow, if_false, Option.some.injEq] at h
            exact absurd (by rw [h]) hflow

theorem execList_append_stop {run : Shell → Command → Option (Shell × Flow)} {sh sh' : Shell}
    {xs : List Command} {flow : Flow} (ys : List Command) (h : execList run sh xs = some (sh', flow))
    (hflow : flow ≠ .next) : execList run sh (xs ++ ys) = some (sh', flow) := by
  induction xs generalizing sh with
  | nil =>
      simp only [execList, Option.some.injEq, Prod.mk.injEq] at h
      exact absurd h.2.symm hflow
  | cons c cs ih =>
      simp only [execList] at h
      cases hc : run sh c with
      | none => simp [hc] at h
      | some r =>
          rw [hc] at h
          by_cases hnext : r.2 = .next
          · simp only [Option.bind_some, hnext, if_true] at h
            rw [List.cons_append, execList_cons_next _ (show run sh c = some (r.1, .next) by rw [hc, ← hnext]),
              ih h]
          · simp only [Option.bind_some, hnext, if_false] at h
            rw [List.cons_append, execList_cons_stop _ (show run sh c = some (r.1, r.2) by rw [hc]) hnext, h]

namespace Shell

theorem expandWord_literals (sh : Shell) (cs : List Char) (w : List Piece) :
    sh.expandWord (literals cs ++ w) = (sh.expandWord w).map (cs ++ ·) := by
  induction cs with
  | nil => simp
  | cons c cs ih =>
      simp only [literals_cons, List.cons_append, expandWord, ih, Option.map_map]
      rfl

theorem expandWord_literals_only (sh : Shell) (cs : List Char) :
    sh.expandWord (literals cs) = some cs := by
  have h := sh.expandWord_literals cs []
  rw [List.append_nil] at h
  rw [h]
  simp [expandWord]

end Shell

/-- The names that the shell runs itself before it looks for a function. -/
def specialBuiltins : List String := [":", "return", "exit", "export"]

/-- A command that is no builtin and no function is external: the world gives its
status. -/
theorem exec_external {world : World} {n : Nat} {sh : Shell} {words : List (List Piece)}
    {name : String} {args : List String} (hwords : sh.expandWords words = some (name :: args))
    (hname : name ∉ specialBuiltins) (hfun : sh.function? name = none) :
    exec world (n + 1) sh (.simple words) = some (sh.external world (name :: args), .next) := by
  simp only [specialBuiltins, List.mem_cons, List.not_mem_nil, or_false, not_or] at hname
  obtain ⟨h1, h2, h3, h4⟩ := hname
  simp [exec, hwords, h1, h2, h3, h4, hfun]

/-- A call of a function runs its body with the arguments as positional parameters. -/
theorem exec_call {world : World} {n : Nat} {sh : Shell} {words : List (List Piece)}
    {name : String} {args : List String} {body : Command}
    (hwords : sh.expandWords words = some (name :: args)) (hname : name ∉ specialBuiltins)
    (hfun : sh.function? name = some body) :
    exec world (n + 1) sh (.simple words) =
      (exec world n { sh with args := args } body).map fun r =>
        ({ r.1 with args := sh.args }, if r.2 = .exited then .exited else .next) := by
  simp only [specialBuiltins, List.mem_cons, List.not_mem_nil, or_false, not_or] at hname
  obtain ⟨h1, h2, h3, h4⟩ := hname
  simp [exec, hwords, h1, h2, h3, h4, hfun]

/-- `return N` ends the function with status `N`. -/
theorem exec_return {world : World} {n : Nat} {sh : Shell} {words : List (List Piece)}
    {arg : String} {m : Nat} (hwords : sh.expandWords words = some ["return", arg])
    (harg : arg.toNat? = some m) :
    exec world (n + 1) sh (.simple words) = some ({ sh with status := UInt8.ofNat m }, .returned) := by
  simp [exec, hwords, Shell.statusArg, harg]

/-- `exit N` ends the shell with status `N`. -/
theorem exec_exit {world : World} {n : Nat} {sh : Shell} {words : List (List Piece)}
    {arg : String} {m : Nat} (hwords : sh.expandWords words = some ["exit", arg])
    (harg : arg.toNat? = some m) :
    exec world (n + 1) sh (.simple words) = some ({ sh with status := UInt8.ofNat m }, .exited) := by
  simp [exec, hwords, Shell.statusArg, harg]

/-- `:` succeeds and does nothing. -/
theorem exec_colon {world : World} {n : Nat} {sh : Shell} {words : List (List Piece)}
    (hwords : sh.expandWords words = some [":"]) :
    exec world (n + 1) sh (.simple words) = some ({ sh with status := 0 }, .next) := by
  simp [exec, hwords]

/-- `export` sets its variables and succeeds. -/
theorem exec_export {world : World} {n : Nat} {sh sh' : Shell} {words : List (List Piece)}
    {args : List String} (hwords : sh.expandWords words = some ("export" :: args))
    (hset : sh.exportVars args = some sh') :
    exec world (n + 1) sh (.simple words) = some ({ sh' with status := 0 }, .next) := by
  simp [exec, hwords, hset]

theorem exec_bang (world : World) (n : Nat) (sh : Shell) (c : Command) :
    exec world (n + 1) sh (.bang c) = (exec world n sh c).map fun r =>
      if r.2 = .next then ({ r.1 with status := if r.1.status = 0 then 1 else 0 }, .next) else r := rfl

theorem exec_join (world : World) (n : Nat) (sh : Shell) (l : Command) (k : Connector) (r : Command) :
    exec world (n + 1) sh (.join l k r) = (exec world n sh l).bind fun left =>
      if left.2 = .next && k.continues left.1.status then exec world n left.1 r else some left := rfl

/-- An and-or list whose left command ended normally: the right one runs when the
connector lets it. -/
theorem exec_join_next {world : World} {n : Nat} {sh sh' : Shell} {l : Command} (k : Connector)
    (r : Command) (hl : exec world n sh l = some (sh', .next)) :
    exec world (n + 1) sh (.join l k r) =
      if k.continues sh'.status then exec world n sh' r else some (sh', .next) := by
  rw [exec_join, hl, Option.bind_some]
  simp

/-- `! C` after `C` ended normally: the status is negated. -/
theorem exec_bang_next {world : World} {n : Nat} {sh sh' : Shell} {c : Command}
    (hc : exec world n sh c = some (sh', .next)) :
    exec world (n + 1) sh (.bang c) =
      some ({ sh' with status := if sh'.status = 0 then 1 else 0 }, .next) := by
  simp [exec_bang, hc]

theorem exec_group (world : World) (n : Nat) (sh : Shell) (body : List Command) :
    exec world (n + 1) sh (.group body) = execList (exec world n) sh body := rfl

theorem exec_subshell (world : World) (n : Nat) (sh : Shell) (body : List Command) :
    exec world (n + 1) sh (.subshell body) = (execList (exec world n) sh body).map fun r =>
      ({ sh with status := r.1.status, calls := r.1.calls }, .next) := rfl

theorem exec_ifThen (world : World) (n : Nat) (sh : Shell) (cond thenPart : List Command)
    (elsePart : Option (List Command)) :
    exec world (n + 1) sh (.ifThen cond thenPart elsePart) =
      (execList (exec world n) sh cond).bind fun c =>
        if c.2 ≠ .next then some c
        else if c.1.status = 0 then execList (exec world n) c.1 thenPart
        else match elsePart with
          | some e => execList (exec world n) c.1 e
          | none => some ({ c.1 with status := 0 }, .next) := rfl

theorem exec_function (world : World) (n : Nat) (sh : Shell) (name : String) (body : Command) :
    exec world (n + 1) sh (.function name body) =
      some ({ sh with functions := (name, body) :: sh.functions, status := 0 }, .next) := rfl

end BuildWorker.Posix
