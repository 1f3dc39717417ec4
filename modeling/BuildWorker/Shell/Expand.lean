import BuildWorker.Shell.Arith
import BuildWorker.Shell.Fields
import BuildWorker.Shell.ParamOps
import BuildWorker.Shell.Brace
/-!
# Expanding words

A word becomes fields in the shell's order: brace groups first, then a leading tilde,
then parameters, arithmetic and command substitutions from left to right, then the
results of unquoted expansions are split by `$IFS`, and fields with unquoted pattern
characters become the file names they match.

Expansion gives *pieces* (see `Shell.Fields`): quoted text is kept whole and keeps an
empty field alive; the value of an unquoted expansion may be split and be a pattern;
unquoted text written in the word may be a pattern but is never split.

Parameters are read through `ParamValue`: one text (none when unset), or the elements of
`$@`, `$*` or an array.  The operations of `${...}` apply to each element.

Running commands is not this module's business: a command substitution and a process
substitution are handed to an `Evaluator`, which the evaluator of commands supplies.

Two kinds of error end an expansion.  Most (a bad substitution, an arithmetic error, a
pattern that matches nothing under `failglob`) abandon the complete command being run,
with status 1; an unset parameter under `set -u` and `${name?message}` end the shell,
with status 127.
-/

namespace BuildWorker.Shell

open Text

/-- What expansion asks of the evaluator of commands: the output of a command
substitution (whose status becomes `$?`), and the file name of a process substitution,
which reads the list's output or, for `>(list)`, feeds its input. -/
structure Evaluator where
  capture : String → ShellM String
  processFile : String → Bool → ShellM String
  /-- Makes the output of a coprocess readable at a descriptor, running the coprocess if
  it has not run yet. -/
  settle : Nat → ShellM Unit

/-- Reports an expansion error that abandons the complete command being run, with
status 1. -/
def abandon {α : Type} (message : String) : ShellM α := do
  complain message
  setStatus 1
  throw .abort

/-- Reports an expansion error that ends the shell, with a status. -/
def fatalExpansionWith {α : Type} (status : Nat) (message : String) : ShellM α := do
  complain message
  setStatus status
  throw .exit

/-- Reports an expansion error that ends the shell, with status 127. -/
def fatalExpansion {α : Type} (message : String) : ShellM α :=
  fatalExpansionWith 127 message

/-- Drops the rest of the text being run after a failed assignment, with status 1: a
shell running text from its command line, or a subshell, ends; a script goes on with
its next command. -/
def dropAfterFailedAssignment {α : Type} : ShellM α := do
  let s ← getShell
  setStatus 1
  if s.commandMode || s.subshellDepth > 0 then throw .exit else throw .abort

/-- Reports a failed assignment to an integer variable, after the name of the builtin
making it, and drops the rest of the text being run. -/
def failIntegerAssignment {α : Type} (f : ArithFailure) : ShellM α := do
  reportArith (← getShell).commandName f
  dropAfterFailedAssignment

/-! ## Values and pieces -/

/-- The value of a parameter: one text (none when unset), or the elements of `$@` or of
an array. -/
inductive ParamValue where
  | one (v : Option String)
  | many (vs : List String)
  deriving Repr, Inhabited

/-- Whether a value counts as unset for `${name-word}`, or with `colon` also as empty. -/
def ParamValue.isNull (colon : Bool) : ParamValue → Bool
  | .one none => true
  | .one (some v) => colon && v.isEmpty
  | .many vs => vs.isEmpty || (colon && vs == [""])

/-- Applies a function to each text of a value. -/
def ParamValue.map (f : String → String) : ParamValue → ParamValue
  | .one t => .one (t.map f)
  | .many vs => .many (vs.map f)

/-- How a parameter is named in messages: `$1` for a positional one, `a[1]` for an
element. -/
def ParamRef.shown (r : ParamRef) : String :=
  match r.subscript with
  | some sub => r.name ++ "[" ++ sub ++ "]"
  | none => if !r.name.isEmpty && r.name.all Char.isDigit then "$" ++ r.name else r.name

/-- The joiner of `"$*"`: the first character of `$IFS`, a space when it is not set. -/
def ShellState.starJoiner (s : ShellState) : String :=
  match lookupVar s "IFS" with
  | some ifs => String.ofList (ifs.toList.take 1)
  | none => " "

/-- How file names are matched, from the options of `shopt`. -/
def ShellState.globOptions (s : ShellState) : GlobOptions :=
  { dotglob := s.shopt "dotglob", globstar := s.shopt "globstar", nocase := s.shopt "nocaseglob",
    extglob := s.shopt "extglob" }

/-- A text as pieces: quoted it is kept whole, unquoted it may be split and be a
pattern. -/
def textPieces (v : String) (quoted : Bool) : List Piece :=
  if quoted then [.keep, .chars v false false] else [.chars v true true]

/-- Elements as pieces: inside quotes `$*` joins them into one text and `$@` keeps them
apart; unquoted each is split on its own. -/
def listPieces (s : ShellState) (vs : List String) (star quoted : Bool) : List Piece :=
  if quoted && star then [.keep, .chars (s.starJoiner.intercalate vs) false false]
  else
    let joiner := if star then s.starJoiner else " "
    List.intercalate [.boundary joiner] (vs.map fun v => textPieces v quoted)

/-- The pieces of a value. -/
def valuePieces (s : ShellState) (v : ParamValue) (star quoted : Bool) : List Piece :=
  match v with
  | .one t => textPieces (t.getD "") quoted
  | .many vs => listPieces s vs star quoted

/-! ## Assigning -/

/-- Assigns a text to a variable, or to an element of it.  A read-only variable is
reported and refused; an integer variable takes the value of the text as arithmetic
(added to the old value with `append`); another gets the text, after the old one with
`append`.  Under `set -a` the variable is exported.  Gives whether it was assigned. -/
def setValue (name : String) (slot : Option Slot) (value : String) (append : Bool) : ShellM Bool := do
  let s ← getShell
  let target := s.resolveName name
  let var := (s.vars.lookup target).getD {}
  if var.readOnly then
    complain (name ++ ": readonly variable")
    return false
  let old := match slot with
    | some sl => (var.element? sl).getD ""
    | none => var.text?.getD ""
  let value ← if var.integer then do
      match ← evalArith value with
      | .ok v =>
          if append then
            match ← evalArith old with
            | .ok o => pure (some (toString (wrapWord (o + v))))
            | .error _ => pure (some (toString v))
          else pure (some (toString v))
      | .error f => failIntegerAssignment f
    else pure (some (if append then old ++ value else value))
  match value with
  | none => return false
  | some value =>
      let s ← getShell
      let var := (s.vars.lookup target).getD {}
      let updated := match slot with
        | some sl => var.setElement sl value
        | none => some (var.withText value)
      match updated with
      | some v =>
          let v := { v with declaredOnly := false }
          let v := if s.option "allexport" then { v with exported := true } else v
          modifyShell (·.putVar target v)
          return true
      | none =>
          let index := match slot with
            | some (.index i) => toString i
            | some (.key k) => k
            | none => ""
          complain (name ++ "[" ++ index ++ "]: bad array subscript")
          dropAfterFailedAssignment

/-! ## Tildes -/

/-- The directory a tilde prefix names: the home directory, `~+` the working directory,
`~-` the previous one, `~root` the administrator's home. -/
def tildeHome (s : ShellState) (user : String) : Option String :=
  match user with
  | "" => some ((lookupVar s "HOME").getD "/root")
  | "+" => some ((lookupVar s "PWD").getD s.cwdText)
  | "-" => lookupVar s "OLDPWD"
  | "root" => some "/root"
  | _ => none

/-- Expands the tilde prefixes of unquoted text: the one at the start, and with `afterColons`
(in an assignment) those after each colon.  `complete` says the text ends the word. -/
def expandTildeText (s : ShellState) (text : String) (afterColons complete : Bool) : List WordPart :=
  let segments := if afterColons then text.splitOn ":" else [text]
  let count := segments.length
  let parts := segments.zipIdx.flatMap fun (seg, i) =>
    let sep := if i + 1 < count then [WordPart.text ":" false] else []
    match seg.toList with
    | '~' :: after =>
        let user := after.takeWhile (· != '/')
        let tail := after.drop user.length
        let runsOn := tail.isEmpty && i + 1 == count && !complete
        match (if runsOn then none else tildeHome s (String.ofList user)) with
        | some home => [WordPart.text home true, WordPart.text (String.ofList tail) false] ++ sep
        | none => [WordPart.text seg false] ++ sep
    | _ => [WordPart.text seg false] ++ sep
  parts.filter fun
    | .text "" false => false
    | _ => true

/-- Tilde expansion of a word: at its start, or in an assignment also after colons. -/
def expandTilde (s : ShellState) (afterColons : Bool) (w : Word) : Word :=
  match w with
  | .text t false :: rest => expandTildeText s t afterColons rest.isEmpty ++ rest
  | _ => w

/-! ## Expansion -/

mutual

/-- The pieces of one part of a word. -/
def partPieces (ev : Evaluator) : Nat → WordPart → ShellM (List Piece)
  | 0, _ => throw .halt
  | fuel + 1, p =>
      match p with
      | .text s quoted => pure (if quoted then [.keep, .chars s false false] else [.chars s false true])
      | .param ref op quoted => paramPieces ev fuel ref op quoted
      | .command source quoted => do
          let out ← ev.capture source
          pure (textPieces out quoted)
      | .arith source quoted => do
          let v ← arithOf ev "" fuel source
          pure (textPieces (toString v) quoted)
      | .process source output => do
          let path ← ev.processFile source output
          pure [.chars path false false]
      | .invalid text => abandon (text ++ ": bad substitution")

/-- The pieces of a word. -/
def wordPieces (ev : Evaluator) : Nat → Word → ShellM (List Piece)
  | 0, _ => throw .halt
  | fuel + 1, w => do
      let mut out : Array Piece := #[]
      for p in w do
        out := out ++ (← partPieces ev fuel p).toArray
      pure out.toList

/-- The text a written word stands for, without splitting: a key of an associative
array. -/
def textOf (ev : Evaluator) : Nat → String → ShellM String
  | 0, _ => throw .halt
  | fuel + 1, text => do
      match readPlainWord text with
      | .ok w => pure (piecesText (← wordPieces ev fuel w))
      | .error e => abandon e.problem.message

/-- The value of arithmetic text: its expansions made, then evaluated; an error is
reported and abandons the command. -/
def arithOf (ev : Evaluator) (label : String) : Nat → String → ShellM Int
  | 0, _ => throw .halt
  | fuel + 1, source => do
      let text ← match readArithWord source with
        | .ok w => do pure (piecesText (← wordPieces ev fuel w))
        | .error _ => pure source
      match ← evalArith text with
      | .ok v => pure v
      | .error f =>
          reportArith label f
          setStatus 1
          throw .abort

/-- A written pattern, expanded: its characters marked when quoted. -/
def patternOf (ev : Evaluator) : Nat → String → ShellM (List (Char × Bool))
  | 0, _ => throw .halt
  | fuel + 1, text => do
      match readPlainWord text with
      | .ok w => pure (piecesPattern (← wordPieces ev fuel w))
      | .error e => abandon e.problem.message

/-- The slot a subscript names: a key of an associative array, else an index. -/
def slotOf (ev : Evaluator) : Nat → String → String → ShellM Slot
  | 0, _, _ => throw .halt
  | fuel + 1, name, sub => do
      if (← getShell).isAssoc name then pure (.key (← textOf ev fuel sub))
      else pure (.index (← arithOf ev "" fuel sub))

/-- The value of a parameter. -/
def valueOf (ev : Evaluator) : Nat → ParamRef → ShellM ParamValue
  | 0, _ => throw .halt
  | fuel + 1, r => do
      let s ← getShell
      match r.subscript with
      | none =>
          if r.name == "@" || r.name == "*" then pure (.many s.positional)
          else pure (.one (s.param r.name))
      | some sub =>
          if sub == "@" || sub == "*" then
            pure (.many (((s.findVar r.name).map (·.elements)).getD []))
          else
            let slot ← slotOf ev fuel r.name sub
            let s ← getShell
            if Variable.badIndex (s.findVar r.name) slot then
              complain (r.name ++ ": bad array subscript")
              pure (.one none)
            else pure (.one (s.element? r.name slot))

/-- The parameter `${!name}` reads: the one named by the value of `name`. -/
def indirectRef (ev : Evaluator) : Nat → ParamRef → ShellM ParamRef
  | 0, _ => throw .halt
  | fuel + 1, r => do
      match ← valueOf ev fuel { r with indirect := false } with
      | .one (some t) =>
          match readParamName t.toList with
          | some (name, sub, []) => pure { name, subscript := sub }
          | _ => abandon (t ++ ": invalid variable name")
      | .one none => abandon (r.name ++ ": invalid indirect expansion")
      | .many vs => abandon (" ".intercalate vs ++ ": invalid variable name")

/-- The word inside `${name:-word}` and its kin as pieces.  Unquoted, its plain text may
be split like the value of an expansion; inside double quotes all of it is quoted. -/
def innerPieces (ev : Evaluator) : Nat → String → Bool → ShellM (List Piece)
  | 0, _, _ => throw .halt
  | fuel + 1, text, quoted => do
      let parsed := if quoted then readQuotedInner text else readPlainWord text
      match parsed with
      | .error e => abandon e.problem.message
      | .ok w =>
          let w := expandTilde (← getShell) false w
          let pieces ← wordPieces ev fuel w
          if quoted then pure (.keep :: pieces)
          else pure (pieces.map fun
            | .chars s false true => .chars s true true
            | p => p)

/-- The pieces of a parameter expansion. -/
def paramPieces (ev : Evaluator) : Nat → ParamRef → ParamOp → Bool → ShellM (List Piece)
  | 0, _, _, _ => throw .halt
  | fuel + 1, written, op, quoted => do
      let ref ← if written.indirect then indirectRef ev fuel written else pure written
      let s ← getShell
      let star := ref.joinsStar
      let extended := s.shopt "extglob"
      let checkBound (v : ParamValue) : ShellM Unit := do
        match v with
        | .one none =>
            if s.nounset then
              let shown := if written.indirect then "!" ++ written.shown else ref.shown
              fatalExpansion (shown ++ ": unbound variable")
        | _ => pure ()
      match op with
      | .namesWithPrefix =>
          let names := (s.vars.filter fun (n, v) => n.startsWith ref.name && v.value != .none).map (·.1)
          let names := names.mergeSort fun a b => decide (a ≤ b)
          pure (listPieces s names (ref.subscript == some "*") quoted)
      | .keys =>
          let keys := ((s.findVar ref.name).map (·.keys)).getD []
          pure (listPieces s keys star quoted)
      | .value =>
          let v ← valueOf ev fuel ref
          checkBound v
          pure (valuePieces s v star quoted)
      | .length =>
          let v ← valueOf ev fuel ref
          -- under `set -u` the length of an unset element, or the count of the elements
          -- of what is no array, ends the shell with status 1
          if s.nounset && ref.subscript.isSome then
            let isArray := match s.findVar ref.name with
              | some var => var.isArray && !var.declaredOnly
              | none => false
            let unset := match v with
              | .one none => true
              | _ => false
            if unset || (ref.isMulti && !isArray) then
              fatalExpansionWith 1 (ref.name ++ ": unbound variable")
          checkBound v
          let n := match v with
            | .one t => (t.getD "").length
            | .many vs => vs.length
          pure (textPieces (toString n) quoted)
      | .ifUnset colon word =>
          let v ← valueOf ev fuel ref
          if v.isNull colon then innerPieces ev fuel word quoted
          else pure (valuePieces s v star quoted)
      | .assignIfUnset colon word =>
          let v ← valueOf ev fuel ref
          if v.isNull colon then
            let text := piecesText (← innerPieces ev fuel word true)
            if !isName ref.name then
              abandon (ref.shown ++ ": cannot assign in this way")
            let slot ← match ref.subscript with
              | some sub => some <$> slotOf ev fuel ref.name sub
              | none => pure none
            if !(← setValue ref.name slot text false) then
              setStatus 1
              throw .abort
            pure (textPieces text quoted)
          else pure (valuePieces s v star quoted)
      | .ifSet colon word =>
          let v ← valueOf ev fuel ref
          if v.isNull colon then pure (if quoted then [.keep] else [])
          else innerPieces ev fuel word quoted
      | .failIfUnset colon word =>
          let v ← valueOf ev fuel ref
          if v.isNull colon then
            let text := piecesText (← innerPieces ev fuel word true)
            let message := if !text.isEmpty then text
              else if colon then "parameter null or not set" else "parameter not set"
            fatalExpansion (ref.shown ++ ": " ++ message)
          else pure (valuePieces s v star quoted)
      | .dropPrefix longest pattern =>
          let v ← valueOf ev fuel ref
          checkBound v
          let pat ← patternOf ev fuel pattern
          pure (valuePieces s (v.map (dropMatchingPrefix extended longest pat)) star quoted)
      | .dropSuffix longest pattern =>
          let v ← valueOf ev fuel ref
          checkBound v
          let pat ← patternOf ev fuel pattern
          pure (valuePieces s (v.map (dropMatchingSuffix extended longest pat)) star quoted)
      | .replace anchor pattern replacement =>
          let v ← valueOf ev fuel ref
          checkBound v
          let pat ← patternOf ev fuel pattern
          let rep ← patternOf ev fuel replacement
          pure (valuePieces s (v.map (replaceMatching extended anchor pat rep)) star quoted)
      | .changeCase change every pattern =>
          let v ← valueOf ev fuel ref
          checkBound v
          let pat ← patternOf ev fuel pattern
          -- the patterns of case changes always know the extended groups
          pure (valuePieces s (v.map (changeCaseMatching true change every pat)) star quoted)
      | .slice offset length =>
          let v ← valueOf ev fuel ref
          checkBound v
          -- an unset parameter gives nothing before its bounds are worked out; their
          -- errors name the parameter as written
          if let .one none := v then return (if quoted then [.keep] else [])
          let label := written.name ++ ((written.subscript.map fun t => "[" ++ t ++ "]").getD "")
          let off ← arithOf ev label fuel offset
          let len ← match length with
            | some l => some <$> arithOf ev label fuel l
            | none => pure none
          let negative : ShellM Unit := abandon ((length.getD "").trimAscii.toString ++ ": substring expression < 0")
          match v with
          | .one t =>
              let cs := (t.getD "").toList
              match sliceBounds cs.length off len with
              | .ok (a, b) => pure (textPieces (String.ofList ((cs.drop a).take (b - a))) quoted)
              | .error .outside => pure (textPieces "" quoted)
              | .error .negativeLength =>
                  negative
                  pure []
          | .many vs =>
              if len.any (· < 0) then
                negative
                return []
              let count := len.map Int.toNat
              if ref.subscript.isNone then
                let all := s.scriptName :: vs
                let start := if off < 0 then off + all.length else off
                if start < 0 || start > all.length then pure (listPieces s [] star quoted)
                else pure (listPieces s (takeRange all start.toNat count) star quoted)
              else
                match ((s.findVar ref.name).map (·.value) : Option VarValue) with
                | some (.indexed items) =>
                    let start := if off < 0 then off + nextIndex items else off
                    if start < 0 then pure (listPieces s [] star quoted)
                    else
                      let chosen := (items.filter (·.1 ≥ start.toNat)).map (·.2)
                      pure (listPieces s (takeRange chosen 0 count) star quoted)
                | _ =>
                    let start := if off < 0 then off + vs.length else off
                    if start < 0 then pure (listPieces s [] star quoted)
                    else pure (listPieces s (takeRange vs start.toNat count) star quoted)
      | .transform op =>
          let v ← valueOf ev fuel ref
          checkBound v
          let var := s.findVar ref.name
          let letter := match op.toList with
            | [c] => if "QEPAaUuLKk".toList.contains c then some c else none
            | _ => none
          let some letter := letter
            | match v with
              | .one none => pure (if quoted then [.keep] else [])
              | _ => fatalExpansion ("$\x7b" ++ (if written.indirect then "!" else "") ++ written.name ++
                  ((written.subscript.map fun t => "[" ++ t ++ "]").getD "") ++ "@" ++ op ++ "\x7d: bad substitution")
          match v, letter with
          | .many _, 'A' =>
              match var with
              | some x =>
                  if ref.subscript.isSome && x.isArray then
                    pure (textPieces ("declare -" ++ x.flags ++ " " ++ ref.name ++ "=" ++ x.arrayBody) quoted)
                  else pure (valuePieces s (v.map (transformText letter ref.name var)) star quoted)
              | none => pure (valuePieces s (.many []) star quoted)
          | .many _, 'K' =>
              match var with
              | some x =>
                  let pairs := (x.keys.zip x.elements).map fun (k, e) => k ++ " " ++ listingQuote e
                  pure (textPieces (" ".intercalate pairs) quoted)
              | none => pure (valuePieces s (.many []) star quoted)
          | _, _ => pure (valuePieces s (v.map (transformText letter ref.name var)) star quoted)

end

/-! ## Words -/

/-- Words expanded into fields: brace groups, tildes, expansions, splitting by `$IFS`,
and file names. -/
def expandWords (ev : Evaluator) (fuel : Nat) (words : List Word) : ShellM (List String) := do
  let mut out : Array String := #[]
  for word in words do
    for w in braceExpand word do
      let pieces ← wordPieces ev fuel (expandTilde (← getShell) false w)
      let s ← getShell
      let files := (← getWorld).files
      for f in splitFields s.ifs pieces do
        let text := String.ofList (f.map (·.1))
        if s.option "noglob" then out := out.push text
        else
          match globField files s.cwd s.globOptions f with
          | none => out := out.push text
          | some [] =>
              if s.shopt "failglob" then (abandon ("no match: " ++ text) : ShellM Unit)
              else if !s.shopt "nullglob" then out := out.push text
          | some found => out := out ++ found.toArray
  pure out.toList

/-- A word expanded into one text, without splitting or file names. -/
def expandText (ev : Evaluator) (fuel : Nat) (w : Word) : ShellM String := do
  pure (piecesText (← wordPieces ev fuel (expandTilde (← getShell) false w)))

/-- The value of an assignment: expanded without splitting, with tildes after colons. -/
def expandAssigned (ev : Evaluator) (fuel : Nat) (w : Word) : ShellM String := do
  pure (piecesText (← wordPieces ev fuel (expandTilde (← getShell) true w)))

/-- A word expanded as a pattern: its characters marked when quoted. -/
def expandPattern (ev : Evaluator) (fuel : Nat) (w : Word) : ShellM (List (Char × Bool)) := do
  pure (piecesPattern (← wordPieces ev fuel (expandTilde (← getShell) false w)))

/-- Assigns a list `( ... )` to a variable, or with `append` adds it.  For an indexed
array, words without a key are split and go to consecutive indices, and `[i]=value`
moves to index `i`; for an associative array, `[key]=value` sets a key and words without
keys are taken in pairs of key and value.  Gives whether it was assigned. -/
def assignList (ev : Evaluator) (fuel : Nat) (name : String) (items : List ArrayItem) (append : Bool) :
    ShellM Bool := do
  let s ← getShell
  let target := s.resolveName name
  let var := (s.vars.lookup target).getD {}
  if var.readOnly then
    complain (name ++ ": readonly variable")
    return false
  let integerValue (v : String) : ShellM String := do
    if var.integer then
      match ← evalArith v with
      | .ok n => pure (toString n)
      | .error f => failIntegerAssignment f
    else pure v
  if var.isAssoc then
    let mut acc := if append then (match var.value with
      | .assoc xs => xs
      | _ => []) else []
    let mut pending : Option String := none
    for item in items do
      match item.key with
      | some k =>
          let key ← textOf ev fuel k
          let v ← integerValue (← expandAssigned ev fuel item.value)
          let v := if item.append then ((acc.lookup key).getD "") ++ v else v
          acc := setAssoc acc key (var.fold v)
      | none =>
          for w in ← expandWords ev fuel [item.value] do
            match pending with
            | some key =>
                acc := setAssoc acc key (var.fold (← integerValue w))
                pending := none
            | none => pending := some w
    if let some key := pending then acc := setAssoc acc key ""
    let v := { var with value := .assoc acc, declaredOnly := false }
    modifyShell (·.putVar target (if (← getShell).option "allexport" then { v with exported := true } else v))
  else
    let mut acc := if append then (match var.value with
      | .indexed xs => xs
      | .scalar t => [(0, t)]
      | _ => []) else []
    let mut next := nextIndex acc
    for item in items do
      match item.key with
      | some k =>
          let i ← arithOf ev "" fuel k
          match resolveIndex acc i with
          | some j =>
              let v ← integerValue (← expandAssigned ev fuel item.value)
              let v := if item.append then ((acc.lookup j).getD "") ++ v else v
              acc := setIndexed acc j (var.fold v)
              next := j + 1
          | none => complain (name ++ "[" ++ k ++ "]: bad array subscript")
      | none =>
          for w in ← expandWords ev fuel [item.value] do
            acc := setIndexed acc next (var.fold (← integerValue w))
            next := next + 1
    let v := { var with value := .indexed acc, declaredOnly := false }
    modifyShell (·.putVar target (if (← getShell).option "allexport" then { v with exported := true } else v))
  return true

end BuildWorker.Shell
