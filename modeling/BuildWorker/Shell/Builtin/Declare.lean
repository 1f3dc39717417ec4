import BuildWorker.Shell.Builtin.Basic
/-!
# Declaring variables

`declare` (and `typeset`), `local`, `export` and `readonly` give variables attributes
and values; `unset` removes variables, elements and functions.

Their words are options first (`-x` turns an attribute on, `+x` off), then names, each
with an optional assignment.  The attributes are set before the value is assigned, so
`declare -i n=2*3` stores `6` and `declare -u s=abc` stores `ABC`; read-only comes last.
Inside a function, `declare` and `local` make the variable local to the call: its old
binding is saved and comes back when the call returns, and the new one starts unset.

With `-p` they write declarations that read back as the variables:
`declare -- x="1"`, `declare -ix n="6"`, `declare -a a=([0]="x" [1]="y")`,
`declare -A m=([k]="v" )`.
-/

namespace BuildWorker.Shell

open Text

/-- A word of a declaring builtin: a plain word, or an assignment written as one. -/
inductive DeclItem where
  | word (s : String)
  | assign (a : Assignment)
  deriving Repr, Inhabited

/-- The attribute letters each declaring builtin takes. -/
def declLetters (builtin : String) : List Char :=
  match builtin with
  | "export" => ['f', 'n', 'p']
  | "readonly" => ['a', 'A', 'f', 'n', 'p']
  | "local" => "aAiIlnrtux".toList
  | _ => "aAfFgiIlnprtux".toList

/-- The options of a declaring builtin: letters turned on and off. -/
structure DeclOptions where
  on : List Char := []
  off : List Char := []
  deriving Repr, Inhabited

/-- Reads the leading options; gives them and the rest, or the bad option. -/
def readDeclOptions (builtin : String) : List DeclItem → DeclOptions → Except String (DeclOptions × List DeclItem)
  | [], o => .ok (o, [])
  | .word "--" :: rest, o => .ok (o, rest)
  | .word w :: rest, o =>
      match w.toList with
      | sign :: letters@(_ :: _) =>
          if sign == '-' || sign == '+' then
            match letters.find? (!(declLetters builtin).contains ·) with
            | some bad => .error (sign.toString ++ bad.toString)
            | none =>
                readDeclOptions builtin rest
                  (if sign == '-' then { o with on := o.on ++ letters } else { o with off := o.off ++ letters })
          else .ok (o, .word w :: rest)
      | _ => .ok (o, .word w :: rest)
  | items, o => .ok (o, items)

/-- A declaration that reads back as the variable; one never assigned has no value. -/
def declaration (name : String) (v : Variable) : String :=
  let flags := v.flags
  let head := "declare " ++ (if flags.isEmpty then "--" else "-" ++ flags) ++ " " ++ name
  if v.declaredOnly then head
  else
    match v.value with
    | .none => head
    | .scalar t => head ++ "=" ++ listingQuote t
    | _ => head ++ "=" ++ v.arrayBody

/-- A variable's value as `set` and a bare `declare` write it. -/
def setListing (name : String) (v : Variable) : Option String :=
  if v.declaredOnly then none
  else match v.value with
  | .none => none
  | .scalar t =>
      some (name ++ "=" ++ (if needsAnsiQuotes t then ansiQuote t
        else if containsShellMetas t then singleQuote t else t))
  | _ => some (name ++ "=" ++ v.arrayBody)

/-- The variables sorted by name. -/
def ShellState.sortedVars (s : ShellState) : List (String × Variable) :=
  s.vars.mergeSort fun a b => decide (a.1 ≤ b.1)

/-- Makes a variable local to the running function call, saving its binding. -/
def makeLocal (name : String) : ShellM Unit :=
  modifyShell fun s =>
    match s.locals with
    | frame :: outer =>
        if frame.any (·.1 == name) then s
        else { s with locals := ((name, s.vars.lookup name) :: frame) :: outer }
    | [] => s

/-- Applies attribute letters to a variable, turning them on or off; an indexed array
that would become associative is refused. -/
def applyAttributes (v : Variable) (on off : List Char) : Except String Variable :=
  let v := if on.contains 'a' then
      match v.value with
      | .none => { v with value := .indexed [], declaredOnly := true }
      | .scalar t => { v with value := .indexed [(0, t)] }
      | _ => v
    else v
  let converted : Except String Variable :=
    if on.contains 'A' then
      match v.value with
      | .none => .ok { v with value := .assoc [], declaredOnly := true }
      | .scalar t => .ok { v with value := .assoc [("0", t)] }
      | .indexed [] => .ok { v with value := .assoc [] }
      | .indexed _ => .error "cannot convert indexed to associative array"
      | .assoc _ => .ok v
    else .ok v
  converted.map fun v =>
    let v := if on.contains 'i' then { v with integer := true } else v
    let v := if off.contains 'i' then { v with integer := false } else v
    let v := if on.contains 'l' then { v with lower := true, upper := false } else v
    let v := if on.contains 'u' then { v with upper := true, lower := false } else v
    let v := if off.contains 'l' then { v with lower := false } else v
    let v := if off.contains 'u' then { v with upper := false } else v
    let v := if on.contains 'x' then { v with exported := true } else v
    let v := if off.contains 'x' then { v with exported := false } else v
    let v := if on.contains 'n' then { v with nameref := true } else v
    if off.contains 'n' then { v with nameref := false } else v

/-- Writes the declarations of the variables a builtin lists: those with the attributes
asked for, or all. -/
def listDeclarations (builtin : String) (o : DeclOptions) : ShellM Unit := do
  let s ← getShell
  let wanted (v : Variable) : Bool :=
    match builtin with
    | "export" => v.exported
    | "readonly" => v.readOnly
    | _ => o.on.all fun c =>
        c == 'p' || c == 'g' || (v.flags.toList.contains c)
  for (n, v) in s.sortedVars do
    if wanted v then printOut (declaration n v ++ "\n")
  setStatus 0

/-- `declare`, `typeset`, `local`, `export` and `readonly`. -/
def declareBuiltin (ev : Evaluator) (fuel : Nat) (builtin : String) (items : List DeclItem) : ShellM Unit := do
  let s ← getShell
  if builtin == "local" && s.locals.isEmpty then
    failBuiltin "local" "can only be used in a function" 1
    return
  match readDeclOptions builtin items {} with
  | .error bad =>
      failBuiltin builtin (bad ++ ": invalid option") 2
      showSynopsis builtin
  | .ok (o, names) =>
      let on := o.on ++ (match builtin with
        | "export" => if o.on.contains 'n' then [] else ['x']
        | "readonly" => ['r']
        | _ => [])
      let off := o.off ++ (if builtin == "export" && o.on.contains 'n' then ['x'] else [])
      let printing := o.on.contains 'p'
      if o.on.contains 'f' || o.on.contains 'F' then
        setStatus 0
        if names.isEmpty then
          if o.on.contains 'F' then
            let fs := s.functions.mergeSort fun a b => decide (a.1 ≤ b.1)
            for (n, _) in fs do printOut ("declare -f " ++ n ++ "\n")
          return
        for item in names do
          let n := match item with
            | .word w => w
            | .assign a => a.name
          if (s.functions.lookup n).isSome then
            if o.on.contains 'F' then printOut (n ++ "\n")
          else if builtin == "export" || builtin == "readonly" then
            failBuiltin builtin (n ++ ": not a function") 1
          else setStatus 1
        return
      if names.isEmpty then
        if printing || builtin == "export" || builtin == "readonly" || !o.on.isEmpty then
          listDeclarations builtin o
        else
          for (n, v) in s.sortedVars do
            if let some line := setListing n v then printOut (line ++ "\n")
          setStatus 0
        return
      if printing then
        setStatus 0
        for item in names do
          let n := match item with
            | .word w => w
            | .assign a => a.name
          match (← getShell).vars.lookup n with
          | some v => printOut (declaration n v ++ "\n")
          | none => failBuiltin builtin (n ++ ": not found") 1
        return
      let makeLocals := builtin == "local" || ((builtin == "declare" || builtin == "typeset") &&
        !s.locals.isEmpty && !o.on.contains 'g')
      setStatus 0
      for item in names do
        let (name, assignment) := match item with
          | .word w => (w, none)
          | .assign a => (a.name, some a)
        let shownName := match item with
          | .word w => w
          | .assign a => a.name ++ (match a.subscript with
              | some sub => "[" ++ sub ++ "]"
              | none => "")
        if !isName name then
          failBuiltin builtin ("`" ++ shownName ++ "': not a valid identifier") 1
          continue
        let fresh := makeLocals && ((← getShell).locals.head?.map (fun f => !f.any (·.1 == name))).getD false
        if makeLocals then makeLocal name
        let st ← getShell
        let target := if makeLocals then name else st.resolveName name
        let current : Variable := if fresh then {} else (st.vars.lookup target).getD {}
        let changesAttributes := builtin != "export" && builtin != "readonly" &&
          (o.on.any (· != 'r') || !o.off.isEmpty)
        if current.readOnly && (assignment.isSome || changesAttributes) then
          failBuiltin builtin (name ++ ": readonly variable") 1
          continue
        match applyAttributes current on (off.filter (· != 'r')) with
        | .error msg =>
            failBuiltin builtin (name ++ ": " ++ msg) 1
            continue
        | .ok v =>
            modifyShell (·.putVar target { v with readOnly := false })
            let mut ok := true
            match assignment with
            | some a =>
                match a.value with
                | .scalar w =>
                    let text ← expandAssigned ev fuel w
                    let slot ← match a.subscript with
                      | some sub => some <$> slotOf ev fuel target sub
                      | none => pure none
                    ok ← setValue target slot text a.append
                | .list listItems =>
                    ok ← assignList ev fuel target listItems a.append
            | none => pure ()
            modifyShell fun st =>
              st.putVar target { ((st.vars.lookup target).getD {}) with
                readOnly := current.readOnly || on.contains 'r' }
            if !ok then setStatus 1

/-- `unset`: removes variables (or elements, written `name[subscript]`), or with `-f`
functions; a name that is no variable names a function. -/
def unsetBuiltin (ev : Evaluator) (fuel : Nat) (args : List String) : ShellM Unit := do
  let some (given, names) ← builtinOptions "unset" { flags := ['f', 'n', 'v'] } args | return
  let functions := flagGiven given 'f'
  let onlyVars := flagGiven given 'v'
  setStatus 0
  for a in names do
    if functions then
      modifyShell fun s => { s with functions := s.functions.filter (·.1 != a) }
      continue
    let (name, sub) := match a.toList.idxOf? '[' with
      | some k =>
          if a.endsWith "]" then
            (String.ofList (a.toList.take k), some (String.ofList ((a.toList.drop (k + 1)).dropLast)))
          else (a, none)
      | none => (a, none)
    if !isName name then
      failBuiltin "unset" ("`" ++ a ++ "': not a valid identifier") 1
      continue
    let s ← getShell
    let target := s.resolveName name
    match s.vars.lookup target with
    | some v =>
        if v.readOnly then
          failBuiltin "unset" (name ++ ": cannot unset: readonly variable") 1
          continue
        match sub with
        | some "@" | some "*" => modifyShell (·.unsetVar target)
        | some text =>
            let slot ← slotOf ev fuel target text
            match v.value, slot with
            | .indexed items, .index i =>
                -- a negative index counts back from past the highest one, and must land
                if (resolveIndex items i).isNone then
                  failBuiltin "unset" ("[" ++ text ++ "]: bad array subscript") 1
                  continue
            | .scalar _, .index i =>
                -- a plain variable is an array of one element, at index 0
                if i != 0 then
                  failBuiltin "unset" (name ++ ": not an array variable") 1
                  continue
            | _, _ => pure ()
            modifyShell (·.putVar target (v.unsetElement slot))
        | none => modifyShell (·.unsetVar target)
    | none =>
        if !onlyVars && sub.isNone then
          modifyShell fun s => { s with functions := s.functions.filter (·.1 != name) }

end BuildWorker.Shell
