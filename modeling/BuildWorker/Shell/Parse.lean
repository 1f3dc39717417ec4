import BuildWorker.Shell.Lex
/-!
# Reading shell commands

Shell text becomes commands one *complete command* at a time: a list of pipelines up to
the end of a line (compound commands may span lines).  A shell runs each complete
command before it reads the next, so an error further on does not stop what came
before; `Source.nextCommand` gives that granularity.

Reserved words (`if`, `then`, `{`, `}`, `[[` and the rest) count only where a command
may start and only as a whole bare word.

Inside `[[ ... ]]` the words form a small expression language of its own: `!`, `&&`,
`||` and parentheses combine unary tests (`-f file`), binary tests (`a == pattern`,
`a =~ regex`, `a -lt b`, `a < b`) and single words.
-/

namespace BuildWorker.Shell

/-! ## Lists -/

/-- Whether the list being read ends here: at a closing bracket, at a `case` arm's end,
or at one of the reserved words that end it. -/
def atListEnd (stops : List String) : ParseM Bool := do
  match ← peekAt 0 with
  | none => pure true
  | some ')' => pure (stops.contains ")")
  | some ';' =>
      let n ← peekAt 1
      pure ((n == some ';' || n == some '&') && stops.contains ";;")
  | _ =>
      let w ← peekBareWord
      pure (!w.isEmpty && stops.contains w)

/-! ## Conditional expressions -/

/-- The unary tests of `[[ ... ]]`. -/
def condUnaryOps : List String :=
  ["-a", "-b", "-c", "-d", "-e", "-f", "-g", "-h", "-k", "-p", "-r", "-s", "-t", "-u", "-w",
    "-x", "-G", "-L", "-N", "-O", "-S", "-z", "-n", "-o", "-v", "-R"]

/-- The binary tests of `[[ ... ]]`. -/
def condBinaryOps : List String :=
  ["==", "=", "!=", "=~", "<", ">", "-eq", "-ne", "-lt", "-le", "-gt", "-ge", "-nt", "-ot", "-ef"]

/-- A token of the expression language of `[[ ... ]]`. -/
inductive CondToken where
  /-- A word. -/
  | word (w : Word)
  /-- The closing `]]`. -/
  | close
  /-- An operator, named as messages name it (`newline` for a line break). -/
  | op (text : String)
  /-- The end of the text. -/
  | eof
  deriving Inhabited

/-- How messages name a token; words go unnamed. -/
def CondToken.shown : CondToken → Option String
  | .word _ => none
  | .close => some "]]"
  | .op t => some t
  | .eof => some "EOF"

/-- The operators a token inside `[[ ... ]]` may be, longest first. -/
def condOperators : List String :=
  [";;&", "<<<", "<<-", "&>>", ";;", ";&", "&&", "||", ">>", "<<", "&>", ">&", "<&", "<>", ">|",
    "|&", ";", "&", "|", "(", ")", "<", ">"]

/-- Reads the next token inside `[[ ... ]]`, past line breaks when `lines`.  Where line
breaks are not skipped the end of the text reads as one, since the text is read as lines
that each end with one. -/
def readCondToken (lines : Bool) : ParseM CondToken := do
  if lines then skipLinebreaks else skipBlanks
  let s ← get
  match s.peek 0 with
  | none => pure (if lines then .eof else .op "newline")
  | some '\n' => advance 1; pure (.op "newline")
  | some c =>
      if isMeta c && !((c == '<' || c == '>') && s.peek 1 == some '(') then
        let window := (s.input.extract s.pos (s.pos + 3)).toList
        let op := (condOperators.find? fun o => window.take o.length == o.toList).getD c.toString
        advance op.length
        pure (.op op)
      else
        let before := s.extglob
        modify fun s => { s with extglob := true }
        let w ← readWord
        modify fun s => { s with extglob := before }
        pure (if w.bare? == some "]]" then .close else .word w)

/-- Reads the regular expression after `=~`: a word in which a bar, and anything inside
parentheses, belongs to the word.  A metacharacter right away gives an empty word. -/
def readCondRegex : ParseM CondToken := do
  skipBlanks
  match ← peekAt 0 with
  | none => pure (.op "newline")
  | some '\n' => advance 1; pure (.op "newline")
  | some _ =>
      let w ← readWordIn .regex
      pure (if w.bare? == some "]]" then .close else .word w)

/-- The position reached, or for a token that is the end of the text the position past
it, where messages about the end of the text are placed. -/
def reachedAfter (tok : CondToken) : ParseM (Nat × CondEnding) := do
  let s ← get
  match tok with
  | .eof => pure (s.input.size + 1, .atEnd)
  | _ => pure (s.pos, .near)

/-- Fails inside `[[ ... ]]` just after reading a token, saying what is wrong when there
is something to say. -/
def condFail {α : Type} (tok : CondToken) (said : Option String) : ParseM α := do
  let (pos, ending) ← reachedAfter tok
  throw { problem := .conditional ((said.map fun m => [(pos, m)]).getD []) ending, pos }

/-- The message for a token that cannot follow what came before, in the words of
`what`, with the token named when it has a name. -/
def condComplaint (tok : CondToken) (named : String → String) (plain : String) : String :=
  match tok.shown with
  | some t => named t
  | none => plain

mutual

/-- `a || b`, with the token after it. -/
def readCondOr : Nat → ParseM (CondExpr × CondToken)
  | 0 => failHere .tooDeep
  | fuel + 1 => do
      let (l, next) ← readCondAnd fuel
      match next with
      | .op "||" =>
          let (r, after) ← readCondOr fuel
          pure (.or l r, after)
      | _ => pure (l, next)

/-- `a && b`, with the token after it. -/
def readCondAnd : Nat → ParseM (CondExpr × CondToken)
  | 0 => failHere .tooDeep
  | fuel + 1 => do
      let (l, next) ← readCondTerm fuel
      match next with
      | .op "&&" =>
          let (r, after) ← readCondAnd fuel
          pure (.and l r, after)
      | _ => pure (l, next)

/-- `! a`, `( a )`, a unary or binary test, or a single word, with the token after it. -/
def readCondTerm : Nat → ParseM (CondExpr × CondToken)
  | 0 => failHere .tooDeep
  | fuel + 1 => do
      let tok ← readCondToken true
      match tok with
      | .close => condFail tok none
      | .op "(" =>
          -- a failure inside the parentheses also misses the closing one
          let (e, next) ← tryCatch (readCondOr fuel) fun err =>
            match err.problem with
            | .conditional said ending =>
                throw { err with problem := .conditional (said ++ [(err.pos, "expected \x60)'")]) ending }
            | _ => throw err
          match next with
          | .op ")" => pure (e, ← readCondToken true)
          | _ =>
              condFail next (some (condComplaint next
                (fun t => "unexpected token \x60" ++ t ++ "', expected \x60)'") "expected \x60)'"))
      | .word w =>
          if w.bare? == some "!" then
            let (e, next) ← readCondTerm fuel
            pure (.not e, next)
          else if (w.bare?.map condUnaryOps.contains).getD false then
            match ← readCondToken false with
            | .word arg => pure (.unary (w.bare?.getD "") arg, ← readCondToken true)
            | t =>
                condFail t (some (condComplaint t
                  (fun x => "unexpected argument \x60" ++ x ++ "' to conditional unary operator")
                  "unexpected argument to conditional unary operator"))
          else
            let opTok ← readCondToken false
            let op ← match opTok with
              | .word o =>
                  match o.bare? with
                  | some text =>
                      if condBinaryOps.contains text then pure text
                      else condFail opTok (some "conditional binary operator expected")
                  | none => condFail opTok (some "conditional binary operator expected")
              | .op "<" => pure "<"
              | .op ">" => pure ">"
              | .close | .op "&&" | .op "||" | .op ")" => return (.word w, opTok)
              | t =>
                  condFail t (some (condComplaint t
                    (fun x => "unexpected token \x60" ++ x ++ "', conditional binary operator expected")
                    "conditional binary operator expected"))
            let past := (← get).input.size + 1
            let rhsTok ← if op == "=~" then
                tryCatch readCondRegex fun err =>
                  match err.problem with
                  | .unmatched ')' =>
                      let said := [(err.pos + 1, ParseProblem.message (.unmatched ')')),
                        (past, "unexpected argument to conditional binary operator")]
                      throw { err with problem := .conditional said .silent }
                  | _ => throw err
              else readCondToken false
            match rhsTok with
            | .word rhs => pure (.binary op w rhs, ← readCondToken true)
            | t =>
                condFail t (some (condComplaint t
                  (fun x => "unexpected argument \x60" ++ x ++ "' to conditional binary operator")
                  "unexpected argument to conditional binary operator"))
      | t =>
          condFail t (some (condComplaint t
            (fun x => "unexpected token \x60" ++ x ++ "' in conditional command") ""))

end

/-! ## Commands -/

/-- Splits the text of `for (( ... ))` at its two top-level semicolons. -/
def splitArithFor (text : String) : Option (String × String × String) :=
  match text.splitOn ";" with
  | [a, b, c] => some (a, b, c)
  | _ => none

mutual

/-- Reads a list of pipelines chained by `&&` and `||`, separated by `;`, `&` and line
breaks, up to one of `stops`; `toNewline` ends it at the first line break instead (for a
complete command), and `allowEmpty` accepts a list with nothing in it. -/
def readList : Nat → List String → Bool → Bool → ParseM Command
  | 0, _, _, _ => failHere .tooDeep
  | fuel + 1, stops, toNewline, allowEmpty => do
      let mut items : Array Command := #[]
      for _ in [0:(← stepBound)] do
        if toNewline then skipBlanks else skipLinebreaks
        if ← atListEnd stops then break
        if (← peekAt 0) == some '\n' then break
        let item ← readAndOr fuel
        skipBlanks
        match ← peekAt 0 with
        | some ';' =>
            let n ← peekAt 1
            if n == some ';' || n == some '&' then
              items := items.push item
              break
            advance 1
            items := items.push item
        | some '&' =>
            advance 1
            items := items.push (.background item)
        | some '\n' =>
            items := items.push item
            if toNewline then break
            advance 1
        | _ =>
            items := items.push item
            break
      if items.isEmpty && !allowEmpty && !toNewline then unexpectedHere
      match items.toList with
      | [one] => pure one
      | many => pure (.sequence many)

/-- Reads pipelines joined by `&&` and `||`, grouping to the left. -/
def readAndOr : Nat → ParseM Command
  | 0 => failHere .tooDeep
  | fuel + 1 => do
      let mut left ← readPipeline fuel
      for _ in [0:(← stepBound)] do
        skipBlanks
        let a ← peekAt 0
        let b ← peekAt 1
        if a == some '&' && b == some '&' then
          advance 2
          skipLinebreaks
          left := .both left (← readPipeline fuel)
        else if a == some '|' && b == some '|' then
          advance 2
          skipLinebreaks
          left := .either left (← readPipeline fuel)
        else break
      pure left

/-- Reads commands joined by `|` (or `|&`, which sends standard error too), with an
optional leading `!`. -/
def readPipeline : Nat → ParseM Command
  | 0 => failHere .tooDeep
  | fuel + 1 => do
      skipBlanks
      let mut negated := false
      for _ in [0:(← stepBound)] do
        if (← peekBareWord) == "!" then
          advance 1
          negated := !negated
          skipBlanks
        else break
      let first ← readCommand fuel
      let mut stages : Array Command := #[first]
      for _ in [0:(← stepBound)] do
        skipBlanks
        if (← peekAt 0) == some '|' && (← peekAt 1) != some '|' then
          advance 1
          let both := (← peekAt 0) == some '&'
          if both then advance 1
          skipLinebreaks
          let next ← readCommand fuel
          -- `a |& b` is `a 2>&1 | b`
          if both then
            let last := stages.back?.getD .empty
            let withErr := match last with
              | .simple line a w r => Command.simple line a w (r ++ [.duplicate (.fixed 2) { word := [.text "1" false], written := "1" } true])
              | other => .group other [.duplicate (.fixed 2) { word := [.text "1" false], written := "1" } true]
            stages := stages.pop.push withErr
          stages := stages.push next
        else break
      if stages.size == 1 && !negated then pure first
      else pure (.pipeline negated stages.toList)

/-- Reads the body of a loop: `do list done`, or a brace group. -/
def readLoopBody : Nat → ParseM Command
  | 0 => failHere .tooDeep
  | fuel + 1 => do
      skipLinebreaks
      if (← peekBareWord) == "\x7b" then
        advance 1
        let body ← readList fuel ["\x7d"] false false
        expectReserved "\x7d"
        pure body
      else
        expectReserved "do"
        let body ← readList fuel ["done"] false false
        expectReserved "done"
        pure body

/-- Reads the word naming the variable of `for` and `select`, as written: whether it is
a name is only checked when the loop runs. -/
def loopName : ParseM String := do
  skipBlanks
  match ← peekAt 0 with
  | none => unexpectedHere
  | some c =>
      if isMeta c then unexpectedHere
      let start := (← get).pos
      let _ ← readWord
      textBetween start (← get).pos

/-- Reads the words after `in` of `for` and `select`, up to `;` or a line break. -/
def readInWords : Nat → ParseM (Option (List Word))
  | 0 => failHere .tooDeep
  | _ + 1 => do
      skipLinebreaks
      if (← peekBareWord) == "in" then
        advance 2
        let mut words : Array Word := #[]
        for _ in [0:(← stepBound)] do
          skipBlanks
          match ← peekAt 0 with
          | some ';' => advance 1; break
          | some '\n' => advance 1; break
          | none => break
          | some d =>
              if isMeta d then unexpectedHere
              words := words.push (← readWord)
        pure (some words.toList)
      else
        if (← peekAt 0) == some ';' then advance 1
        pure none

/-- Reads one command: a compound command with its redirections, a function
definition, or a simple command. -/
def readCommand : Nat → ParseM Command
  | 0 => failHere .tooDeep
  | fuel + 1 => do
      skipBlanks
      match ← peekAt 0 with
      | none => failHere .unexpectedEnd
      | some '(' =>
          if (← peekAt 1) == some '(' then
            let s ← get
            match findArithEnd s.input (s.input.size + 2) (s.pos + 2) 0 with
            | some j =>
                let src ← textBetween (s.pos + 2) j
                advance (j + 2 - s.pos)
                let line ← lineHere
                return .arithmetic line src (← readRedirects)
            | none => pure ()
          advance 1
          let body ← readList fuel [")"] false false
          expectChar ')'
          pure (.subshell body (← readRedirects))
      | some c =>
          if c == ';' || c == '&' || c == '|' || c == ')' || c == '\n' then unexpectedHere
          match ← peekBareWord with
          | "\x7b" =>
              advance 1
              let body ← readList fuel ["\x7d"] false false
              expectReserved "\x7d"
              pure (.group body (← readRedirects))
          | "[[" =>
              advance 2
              let opened := (← get).pos
              let (e, next) ← readCondOr fuel
              match next with
              | .close =>
                  let line ← lineHere
                  pure (.test line e (← readRedirects))
              | .eof =>
                  let (pos, ending) ← reachedAfter next
                  throw { problem := .conditional [(opened, "unexpected EOF while looking for \x60]]'")] ending, pos }
              | _ =>
                  let (pos, ending) ← reachedAfter next
                  let said := "syntax error in conditional expression" ++
                    ((next.shown.map fun t => ": unexpected token \x60" ++ t ++ "'").getD "")
                  throw { problem := .conditional [(opened, said)] ending, pos }
          | "if" =>
              advance 2
              let cond ← readList fuel ["then"] false false
              expectReserved "then"
              let body ← readList fuel ["elif", "else", "fi"] false false
              let mut branches : Array (Command × Command) := #[(cond, body)]
              let mut otherwise : Option Command := none
              for _ in [0:(← stepBound)] do
                skipLinebreaks
                match ← peekBareWord with
                | "elif" =>
                    advance 4
                    let c ← readList fuel ["then"] false false
                    expectReserved "then"
                    let b ← readList fuel ["elif", "else", "fi"] false false
                    branches := branches.push (c, b)
                | "else" =>
                    advance 4
                    otherwise := some (← readList fuel ["fi"] false false)
                    break
                | _ => break
              expectReserved "fi"
              pure (.conditional branches.toList otherwise (← readRedirects))
          | "for" =>
              let line ← lineHere
              advance 3
              skipBlanks
              if (← peekAt 0) == some '(' && (← peekAt 1) == some '(' then
                let s ← get
                match findArithEnd s.input (s.input.size + 2) (s.pos + 2) 0 with
                | some j =>
                    let src ← textBetween (s.pos + 2) j
                    advance (j + 2 - s.pos)
                    match splitArithFor src with
                    | some (a, b, c) =>
                        skipBlanks
                        if (← peekAt 0) == some ';' then advance 1
                        let body ← readLoopBody fuel
                        return .forArith line a b c body (← readRedirects)
                    | none => unexpectedHere
                | none => failHere (.unmatched ')')
              let name ← loopName
              let items ← readInWords fuel
              let body ← readLoopBody fuel
              pure (.forEach line name items body (← readRedirects))
          | "select" =>
              let line ← lineHere
              advance 6
              skipBlanks
              let name ← loopName
              let items ← readInWords fuel
              let body ← readLoopBody fuel
              pure (.select line name items body (← readRedirects))
          | "while" =>
              advance 5
              let cond ← readList fuel ["do"] false false
              expectReserved "do"
              let body ← readList fuel ["done"] false false
              expectReserved "done"
              pure (.loop false cond body (← readRedirects))
          | "until" =>
              advance 5
              let cond ← readList fuel ["do"] false false
              expectReserved "do"
              let body ← readList fuel ["done"] false false
              expectReserved "done"
              pure (.loop true cond body (← readRedirects))
          | "case" =>
              let line ← lineHere
              advance 4
              skipBlanks
              let subject ← readWord
              expectReserved "in"
              let mut arms : Array (List Word × Command × CaseEnd) := #[]
              for _ in [0:(← stepBound)] do
                skipLinebreaks
                if (← peekBareWord) == "esac" then break
                if (← peekAt 0).isNone then break
                if (← peekAt 0) == some '(' then advance 1
                let mut patterns : Array Word := #[]
                for _ in [0:(← stepBound)] do
                  skipBlanks
                  match ← peekAt 0 with
                  | some d =>
                      if isMeta d then unexpectedHere
                      patterns := patterns.push (← readWord)
                  | none => failHere .unexpectedEnd
                  skipBlanks
                  if (← peekAt 0) == some '|' then advance 1 else break
                expectChar ')'
                let body ← readList fuel ["esac", ";;"] false true
                skipLinebreaks
                let a ← peekAt 0
                let b ← peekAt 1
                let d ← peekAt 2
                if a == some ';' && b == some ';' && d == some '&' then
                  advance 3
                  arms := arms.push (patterns.toList, body, .testNext)
                else if a == some ';' && b == some ';' then
                  advance 2
                  arms := arms.push (patterns.toList, body, .stop)
                else if a == some ';' && b == some '&' then
                  advance 2
                  arms := arms.push (patterns.toList, body, .fallThrough)
                else
                  arms := arms.push (patterns.toList, body, .stop)
                  break
              expectReserved "esac"
              pure (.caseOf line subject arms.toList (← readRedirects))
          | "function" =>
              advance 8
              skipBlanks
              let name := match ← readWord with
                | [.text s false] => s
                | _ => ""
              if name.isEmpty then unexpectedHere
              skipBlanks
              if (← peekAt 0) == some '(' then
                advance 1
                expectChar ')'
              skipLinebreaks
              pure (.function name (← readCommand fuel))
          | "coproc" =>
              advance 6
              skipBlanks
              let w ← peekBareWord
              -- a name before a compound command names the coprocess
              let s ← get
              if isName w && !(["while", "until", "if", "for", "case", "select"].contains w) then
                advance w.length
                skipBlanks
                let next ← peekBareWord
                let c ← peekAt 0
                if next == "\x7b" || c == some '(' || ["while", "until", "if", "for", "case",
                    "select", "[["].contains next then
                  return .coproc w (← readCommand fuel)
                set s
              pure (.coproc "COPROC" (← readCommand fuel))
          | "then" | "else" | "elif" | "fi" | "do" | "done" | "esac" | "\x7d" | "in" | "]]" =>
              unexpectedHere
          | _ => readSimple fuel

/-- Reads a simple command: assignments, words and redirections, in any order after the
assignments; a first word followed by `()` starts a function definition instead.  After
a builtin that declares variables, words of the form `name=value` are assignments. -/
def readSimple : Nat → ParseM Command
  | 0 => failHere .tooDeep
  | fuel + 1 => do
      let mut assignments : Array Assignment := #[]
      let mut words : Array Arg := #[]
      let mut redirects : Array Redirect := #[]
      let mut declaring := false
      -- the line is where the second element ends, or else where the token after the
      -- first one is
      let mut line : Option Nat := none
      for _ in [0:(← stepBound)] do
        if line.isNone && assignments.size + words.size + redirects.size ≥ 2 then
          line := some (← lineHere)
        skipBlanks
        match ← readRedirect? with
        | some r =>
            redirects := redirects.push r
            continue
        | none => pure ()
        match ← peekAt 0 with
        | none => break
        | some c =>
            if c == '(' && words.size == 1 && assignments.isEmpty && redirects.isEmpty then
              match (words[0]? : Option Arg) with
              | some (Arg.word w) =>
                  match w.bare? with
                  | some name =>
                      advance 1
                      expectChar ')'
                      skipLinebreaks
                      return .function name (← readCommand fuel)
                  | none => unexpectedHere
              | _ => unexpectedHere
            if isMeta c && !((c == '<' || c == '>') && (← peekAt 1) == some '(') then break
            if words.isEmpty || declaring then
              let start := (← get).pos
              match ← peekAssignment words.isEmpty with
              | some (name, sub, append, used) =>
                  let a ← readAssignment name sub append used
                  if words.isEmpty then assignments := assignments.push a
                  else words := words.push (.assign a (← textBetween start (← get).pos))
                  continue
              | none => pure ()
            let through ← if words.isEmpty then subscriptWordEnd? else pure none
            let w ← match through with
              | some stop => readWordIn (.through stop)
              | none => readWord
            if words.isEmpty then
              match w.bare? with
              | some name => declaring := declarationBuiltins.contains name
              | none => pure ()
            words := words.push (.word w)
      if assignments.isEmpty && words.isEmpty && redirects.isEmpty then unexpectedHere
      let commandLine ← match line with
        | some l => pure l
        | none => lineHere
      pure (.simple commandLine assignments.toList words.toList redirects.toList)

end

/-- Reads the next complete command, with the line where it ends, or nothing at the end
of the text. -/
def nextCommand : ParseM (Option (Command × Nat)) := do
  skipLinebreaks
  let s ← get
  if s.atEnd then return none
  let c ← readList parseDepth [] true false
  skipBlanks
  let line ← lineHere
  match ← peekAt 0 with
  | none => pure (some (c, line))
  | some '\n' =>
      advance 1
      pure (some (c, line))
  | _ => unexpectedHere

/-- Reads the next complete command from a source. -/
def Source.nextCommand (s : Source) : Except ParseError (Option (Command × Nat)) × Source :=
  (BuildWorker.Shell.nextCommand.run).run s

/-- The line a position is on, counting from `first` for the first line. -/
def lineOf (text : Array Char) (first pos : Nat) : Nat :=
  first + ((text.extract 0 pos).toList.count '\n')

/-- The line a reading error is reported on: an error at the end of the text is one line
past the last. -/
def ParseError.line (e : ParseError) (text : Array Char) (first : Nat) : Nat :=
  let pastEnd :=
    first + text.toList.count '\n' + (if text.toList.getLast? == some '\n' then 0 else 1)
  match e.problem with
  | .unexpectedEnd => pastEnd
  | _ => if e.pos > text.size then pastEnd else lineOf text first e.pos

/-- The line of the position a reading got to: the line of the last character read, or
for a position past the end the line after the text. -/
def reachedLine (text : Array Char) (first reached : Nat) : Nat :=
  if reached > text.size then
    first + text.toList.count '\n' + (if text.toList.getLast? == some '\n' then 0 else 1)
  else lineOf text first (reached - 1)

/-- Moves a position back while it is above zero and `p` holds there. -/
def stepBack (p : Nat → Bool) : Nat → Nat
  | 0 => 0
  | i + 1 => if p (i + 1) then stepBack p i else i + 1

/-- Moves a position forward while it is not `stop` and `p` holds there, at most `fuel`
steps. -/
def stepForward (p : Nat → Bool) (stop : Nat) : Nat → Nat → Nat
  | 0, i => i
  | fuel + 1, i => if i != stop && p i then stepForward p stop fuel (i + 1) else i

/-- The text a reading error inside `[[ ... ]]` is said to be near: on the line of the
last character read, the last word up to the position reached, back to a blank or one
of `;`, `|` and `&` (which it then starts with). -/
def nearText (text : Array Char) (reached : Nat) : String :=
  let last := reached - 1
  let lineStart := last - ((text.extract 0 last).toList.reverse.takeWhile (· != '\n')).length
  let rest := (text.extract lineStart text.size).toList
  let lineChars := rest.takeWhile (· != '\n') ++ (if rest.contains '\n' then ['\n'] else [])
  let at_ (k : Nat) : Option Char := lineChars[k]?
  let blank (k : Nat) : Bool := at_ k == some ' ' || at_ k == some '\t' || at_ k == some '\n'
  let i := reached - lineStart
  let i := if i > 0 && (at_ i).isNone then i - 1 else i
  let i := stepBack blank i
  let tokenEnd := if i > 0 then i + 1 else 0
  let i := stepBack (fun k => !((at_ k).map " \n\t;|&".toList.contains).getD false) i
  let i := stepForward blank tokenEnd (lineChars.length + 1) i
  if tokenEnd > 0 then String.ofList ((lineChars.drop i).take (tokenEnd - i))
  else String.ofList (lineChars.take 1)

/-- The text of the line a position is on, without its line feed. -/
def lineTextAt (text : Array Char) (pos : Nat) : String :=
  let before := (text.extract 0 pos).toList.reverse.takeWhile (· != '\n') |>.reverse
  let after := (text.extract pos text.size).toList.takeWhile (· != '\n')
  String.ofList (before ++ after)

end BuildWorker.Shell
