import BuildWorker.Shell.Expand
import BuildWorker.Shell.Regex
/-!
# Conditions

The two condition languages: the arguments of `test` and `[`, and the expressions of
`[[ ... ]]`.

Both share the unary file tests (`-e`, `-f`, `-d`, `-s`, `-L` and the rest) and the
string and integer comparisons.  They differ in how they get their words and numbers.

* `test` sees words that are already expanded and split, and reads its expression by
  the number of arguments first (up to four have fixed readings), then by precedence:
  `!`, then `-a`, then `-o`.  An integer there is decimal, with blanks around it allowed
  and nothing beyond 64 bits.
* `[[ ... ]]` is read with the rest of the command, and expands each word when it comes
  to it, without splitting or file names.  The right side of `==` and `!=` is a pattern
  (extended patterns always, case folded under `nocasematch`), of `=~` an extended
  regular expression whose groups go to `BASH_REMATCH`; the sides of `-eq` and its kin
  are arithmetic expressions.
-/

namespace BuildWorker.Shell

open Text

/-! ## Shared tests -/

/-- What the unary tests can see: the files, the working directory, which variables are
set and which options are on. -/
structure TestContext where
  files : FileTree
  cwd : List String
  isSet : String → Bool
  optionOn : String → Bool

/-- The unary operators. -/
def unaryTestOps : List String :=
  ["-e", "-f", "-d", "-s", "-r", "-w", "-x", "-n", "-z", "-L", "-h", "-a", "-b", "-c", "-p",
    "-S", "-t", "-O", "-G", "-N", "-k", "-u", "-g", "-v", "-o", "-R"]

/-- The binary operators of `test`. -/
def binaryTestOps : List String :=
  ["=", "==", "!=", "<", ">", "-eq", "-ne", "-lt", "-le", "-gt", "-ge", "-nt", "-ot", "-ef"]

/-- Applies a unary test to its argument. -/
def TestContext.unary (c : TestContext) (op arg : String) : Bool :=
  let path := resolvePath c.cwd arg
  let node := if arg.isEmpty then none else c.files.get? path
  let exists_ := node.isSome
  match op with
  | "-n" => !arg.isEmpty
  | "-z" => arg.isEmpty
  | "-e" | "-a" | "-r" | "-w" | "-O" | "-G" => exists_
  | "-f" =>
      match node with
      | some (.file _) => true
      | _ => false
  | "-d" => node == some .dir
  | "-s" =>
      match node with
      | some (.file b) => !b.isEmpty
      | some .dir => true
      | _ => false
  | "-x" =>
      match node with
      | some .dir => true
      | some (.file _) => (c.files.canonical path).any (·.take 2 == ["usr", "bin"])
      | _ => false
  | "-c" => node == some .nullDevice || node == some .zeroDevice
  | "-L" | "-h" =>
      match (if arg.isEmpty then none else c.files.entry? path) with
      | some (.link _) => true
      | _ => false
  | "-k" => path == ["tmp"]
  | "-v" => c.isSet arg
  | "-o" => c.optionOn arg
  | _ => false

/-- Reads an integer as `test` does: blanks, an optional sign and decimal digits, then
only spaces and tabs; nothing beyond 64 bits. -/
def readTestInteger (s : String) : Option Int :=
  let cs := s.toList.dropWhile fun c => c == ' ' || c == '\t' || c == '\n' || c == '\r' ||
    c == '\x0b' || c == '\x0c'
  let (neg, body) := match cs with
    | '-' :: r => (true, r)
    | '+' :: r => (false, r)
    | _ => (false, cs)
  let ds := body.takeWhile Char.isDigit
  let rest := body.drop ds.length
  if ds.isEmpty || !rest.all (fun c => c == ' ' || c == '\t') then none
  else
    let v : Int := ds.foldl (fun n c => n * 10 + (c.toNat - '0'.toNat)) 0
    let v := if neg then -v else v
    if v < -(Int.ofNat (Nat.pow 2 63)) || v ≥ Int.ofNat (Nat.pow 2 63) then none else some v

/-- Compares two integers by an operator of `test`. -/
def compareIntegers (op : String) (a b : Int) : Bool :=
  match op with
  | "-eq" => a == b
  | "-ne" => a != b
  | "-lt" => a < b
  | "-le" => a ≤ b
  | "-gt" => a > b
  | _ => a ≥ b

/-- Applies a binary operator of `test`; integer comparisons need integers. -/
def TestContext.binary (c : TestContext) (op a b : String) : Except String Bool :=
  let int (s : String) : Except String Int :=
    match readTestInteger s with
    | some n => .ok n
    | none => .error (s ++ ": integer expression expected")
  match op with
  | "=" | "==" => .ok (a == b)
  | "!=" => .ok (a != b)
  | "<" => .ok (a < b)
  | ">" => .ok (b < a)
  | "-ef" =>
      .ok (!a.isEmpty && !b.isEmpty &&
        (c.files.get? (resolvePath c.cwd a)).isSome &&
        c.files.canonical (resolvePath c.cwd a) == c.files.canonical (resolvePath c.cwd b))
  | "-nt" | "-ot" => .ok false
  | _ => do pure (compareIntegers op (← int a) (← int b))

/-! ## test -/

/-- Reading state of `test`: the arguments and the position reached. -/
abbrev TestRead := StateT (Array String × Nat) (Except String)

def testPeek (k : Nat) : TestRead (Option String) := do
  let (args, pos) ← get
  pure args[pos + k]?

def testAdvance (n : Nat) : TestRead Unit := modify fun (args, pos) => (args, pos + n)

mutual

/-- `a -o b`. -/
def testOr (c : TestContext) : Nat → TestRead Bool
  | 0 => throw "expression too complex"
  | fuel + 1 => do
      let v ← testAnd c fuel
      if (← testPeek 0) == some "-o" then
        testAdvance 1
        let w ← testOr c fuel
        pure (v || w)
      else pure v

/-- `a -a b`. -/
def testAnd (c : TestContext) : Nat → TestRead Bool
  | 0 => throw "expression too complex"
  | fuel + 1 => do
      let v ← testTerm c fuel
      if (← testPeek 0) == some "-a" then
        testAdvance 1
        let w ← testAnd c fuel
        pure (v && w)
      else pure v

/-- Negations, a parenthesized expression, a binary or unary test, or a word. -/
def testTerm (c : TestContext) : Nat → TestRead Bool
  | 0 => throw "expression too complex"
  | fuel + 1 => do
      match ← testPeek 0 with
      | none => throw "argument expected"
      | some "!" =>
          testAdvance 1
          pure !(← testTerm c fuel)
      | some "(" =>
          testAdvance 1
          let v ← testOr c fuel
          match ← testPeek 0 with
          | some ")" =>
              testAdvance 1
              pure v
          | some other => throw ("`)' expected, found " ++ other)
          | none => throw "`)' expected"
      | some a =>
          let (args, pos) ← get
          match args[pos + 1]?, args[pos + 2]? with
          | some op, some b =>
              if binaryTestOps.contains op then
                testAdvance 3
                match c.binary op a b with
                | .ok v => pure v
                | .error e => throw e
              else if unaryTestOps.contains a then
                testAdvance 2
                pure (c.unary a op)
              else
                testAdvance 1
                pure !a.isEmpty
          | some arg, none =>
              if unaryTestOps.contains a then
                testAdvance 2
                pure (c.unary a arg)
              else
                testAdvance 1
                pure !a.isEmpty
          | _, _ =>
              testAdvance 1
              pure !a.isEmpty

end

/-- Two arguments: `! word`, or a unary test. -/
def testTwo (c : TestContext) (a b : String) : Except String Bool :=
  if a == "!" then .ok b.isEmpty
  else if unaryTestOps.contains a then .ok (c.unary a b)
  else .error (a ++ ": unary operator expected")

/-- Three arguments: a binary test, `-a` or `-o` of two words, `!` and two arguments, or
a word in parentheses. -/
def testThree (c : TestContext) (a op b : String) : Except String Bool :=
  if binaryTestOps.contains op then c.binary op a b
  else if op == "-a" then .ok (!a.isEmpty && !b.isEmpty)
  else if op == "-o" then .ok (!a.isEmpty || !b.isEmpty)
  else if a == "!" then (testTwo c op b).map (!·)
  else if a == "(" && b == ")" then .ok !op.isEmpty
  else .error (op ++ ": binary operator expected")

/-- Evaluates the arguments of `test`. -/
def evalTest (c : TestContext) (args : List String) : Except String Bool :=
  let general : Except String Bool :=
    match (testOr c (args.length + 2)).run (args.toArray, 0) with
    | .ok (v, (_, pos)) =>
        -- a word left over that looks like an operator is named
        match args[pos]? with
        | some w => .error (if w.startsWith "-" then "syntax error: \x60" ++ w ++ "' unexpected" else "too many arguments")
        | none => .ok v
    | .error e => .error e
  match args with
  | [] => .ok false
  | [a] => .ok !a.isEmpty
  | [a, b] => testTwo c a b
  | [a, op, b] => testThree c a op b
  | [a, b, op, d] =>
      if a == "!" then (testThree c b op d).map (!·)
      else if a == "(" && d == ")" then testTwo c b op
      else general
  | _ => general

/-! ## [[ ... ]] -/

/-- The context of unary tests in the shell as it is. -/
def ShellState.testContext (s : ShellState) (files : FileTree) : TestContext :=
  { files, cwd := s.cwd,
    isSet := fun n =>
      match n.toList.idxOf? '[' with
      | some k =>
          let name := String.ofList (n.toList.take k)
          let sub := String.ofList ((n.toList.drop (k + 1)).takeWhile (· != ']'))
          let slot := if s.isAssoc name then Slot.key sub else .index ((sub.toInt?).getD 0)
          (s.element? name slot).isSome
      | none => (s.findVar n).any (·.value != .none) || (s.param n).isSome && !isName n,
    optionOn := fun o =>
      match o with
      | "errexit" => s.errexit
      | "nounset" => s.nounset
      | "xtrace" => s.xtrace
      | "pipefail" => s.pipefail
      | _ => s.option o }

/-- Sets `BASH_REMATCH` to the text a match covered and what each group matched. -/
def setRematch (text : Array Char) (spans : List (Option (Nat × Nat))) : ShellM Unit := do
  let items := spans.zipIdx.map fun (span, i) =>
    (i, match span with
      | some (a, b) => String.ofList ((text.extract a b).toList)
      | none => "")
  modifyShell (·.putVar "BASH_REMATCH" { value := .indexed items })

/-- Evaluates an expression of `[[ ... ]]`: true, false, or nothing for an error (status
2). -/
def evalCond (ev : Evaluator) : Nat → CondExpr → ShellM (Option Bool)
  | 0, _ => throw .halt
  | fuel + 1, e =>
      match e with
      | .word w => do pure (some !(← expandText ev fuel w).isEmpty)
      | .not inner => do pure ((← evalCond ev fuel inner).map (!·))
      | .and a b => do
          match ← evalCond ev fuel a with
          | some true => evalCond ev fuel b
          | other => pure other
      | .or a b => do
          match ← evalCond ev fuel a with
          | some false => evalCond ev fuel b
          | other => pure other
      | .unary op w => do
          let arg ← expandText ev fuel w
          let s ← getShell
          pure (some ((s.testContext (← getWorld).files).unary op arg))
      | .binary op l r => do
          let lhs ← expandText ev fuel l
          let s ← getShell
          match op with
          | "==" | "=" | "!=" =>
              let pat ← expandPattern ev fuel r
              let hit := globMatchesWith true (s.shopt "nocasematch") pat lhs
              pure (some (if op == "!=" then !hit else hit))
          | "=~" =>
              let pat ← expandPattern ev fuel r
              match readRegex pat with
              | .error _ => pure none
              | .ok (re, groups) =>
                  match regexSearch re groups (s.shopt "nocasematch") lhs with
                  | some spans =>
                      setRematch lhs.toList.toArray spans
                      pure (some true)
                  | none =>
                      modifyShell (·.putVar "BASH_REMATCH" { value := .indexed [] })
                      pure (some false)
          | "<" => pure (some (lhs < (← expandText ev fuel r)))
          | ">" => pure (some ((← expandText ev fuel r) < lhs))
          | "-eq" | "-ne" | "-lt" | "-le" | "-gt" | "-ge" =>
              let rhs ← expandText ev fuel r
              match ← evalArith lhs with
              | .error f =>
                  reportArith "[[" f
                  pure (some false)
              | .ok a =>
                  match ← evalArith rhs with
                  | .error f =>
                      reportArith "[[" f
                      pure (some false)
                  | .ok b => pure (some (compareIntegers op a b))
          | _ =>
              let rhs ← expandText ev fuel r
              match (s.testContext (← getWorld).files).binary op lhs rhs with
              | .ok v => pure (some v)
              | .error _ => pure none

end BuildWorker.Shell
