import BuildWorker.Shell.Command
/-!
# Reading shell words

The lowest level of reading shell text: characters, words with their quoting and
expansions, assignments, here-documents and redirections.  Commands are read from these
in `Shell.Parse`.

Words are read into parts as they are written.  The bodies of command substitutions and
arithmetic expansions are found by scanning for the closing bracket, stepping over
quotes, escapes and nested substitutions, and are kept as text; so are the subscripts,
patterns and words inside `${...}`.  A `${...}` that names no expansion is kept as an
invalid part: it is an error only when it is expanded.

A here-document's body is the lines after the end of the line its redirection is on, up
to the delimiter line.  Those lines are then skipped when reading goes on past that
line; the text itself is kept whole, so every position keeps its line number.

An error while reading is the problem and the position where it was found; the shell
reports it with that position's line.
-/

namespace BuildWorker.Shell

/-- How the report of a malformed `[[ ... ]]` ends. -/
inductive CondEnding where
  /-- With the word before the position reached, and the line it is on. -/
  | near
  /-- With the end of the text. -/
  | atEnd
  /-- With nothing more. -/
  | silent
  deriving DecidableEq, Repr, Inhabited

/-- What is wrong with shell text. -/
inductive ParseProblem where
  | unexpectedToken (token : String)
  | unexpectedEnd
  | unmatched (closer : Char)
  /-- An array assignment `( ... )` that is never closed. -/
  | unclosedArray
  | tooDeep
  /-- A malformed `[[ ... ]]`: what was said about it, each with the position whose line
  it names, and how the report ends. -/
  | conditional (said : List (Nat × String)) (ending : CondEnding)
  deriving DecidableEq, Repr, Inhabited

/-- A reading error: the problem and where it was found. -/
structure ParseError where
  problem : ParseProblem
  pos : Nat
  deriving DecidableEq, Repr, Inhabited

/-- The wording of a reading problem. -/
def ParseProblem.message : ParseProblem → String
  | .unexpectedToken t => "syntax error near unexpected token `" ++ t ++ "'"
  | .unexpectedEnd => "syntax error: unexpected end of file"
  | .unmatched c => "unexpected EOF while looking for matching `" ++ c.toString ++ "'"
  | .unclosedArray => "unexpected EOF while looking for matching `)'"
  | .tooDeep => "expression nested too deeply"
  | .conditional _ _ => "syntax error in conditional expression"

/-- Text being read, the position reached, and the here-document bodies already taken,
as ranges to skip. -/
structure Source where
  input : Array Char
  pos : Nat := 0
  skips : List (Nat × Nat) := []
  /-- The line the text starts on. -/
  firstLine : Nat := 1
  /-- Whether every command counts as on the first line: the text of a command
  substitution, which the shell runs as one line. -/
  flatLines : Bool := false
  /-- Warnings found while reading, each with the line it names. -/
  warnings : List (Nat × String) := []
  /-- Whether `?(`, `*(`, `+(`, `@(` and `!(` start pattern groups in words, as they do
  when `extglob` is on as the text is read, and always inside `[[ ... ]]`. -/
  extglob : Bool := false
  deriving Repr, Inhabited

/-- A source at the start of a text. -/
def Source.ofText (text : String) : Source := { input := text.toList.toArray }

/-- A source at the start of a text that starts on a line. -/
def Source.ofTextAt (text : String) (firstLine : Nat) (flatLines : Bool) : Source :=
  { input := text.toList.toArray, firstLine, flatLines }

/-- The line a position of the text is on. -/
def Source.lineAt (s : Source) (pos : Nat) : Nat :=
  if s.flatLines then s.firstLine else s.firstLine + (s.input.extract 0 pos).toList.count '\n'

/-- Whether the whole text has been read. -/
def Source.atEnd (s : Source) : Bool := s.input.size ≤ s.pos

/-- The character `k` places ahead. -/
def Source.peek (s : Source) (k : Nat) : Option Char := s.input[s.pos + k]?

/-- Reading shell text. -/
abbrev ParseM := ExceptT ParseError (StateM Source)

/-- Fails with a problem at the current position. -/
def failHere {α : Type} (p : ParseProblem) : ParseM α := do
  throw { problem := p, pos := (← get).pos }

/-- Fails with a problem at a given position. -/
def failAt {α : Type} (p : ParseProblem) (pos : Nat) : ParseM α := throw { problem := p, pos }

/-- Nesting depth allowed for compound commands. -/
def parseDepth : Nat := 400

/-! ## Characters -/

/-- Characters that end a word. -/
def isMeta (c : Char) : Bool :=
  c == ' ' || c == '\t' || c == '\n' || c == ';' || c == '&' || c == '|' || c == '(' ||
    c == ')' || c == '<' || c == '>'

/-- The backquote, which opens and closes an old-style command substitution. -/
def backquote : Char := '\x60'

/-- Characters of a bare word, which may be a reserved word. -/
def isBareChar (c : Char) : Bool :=
  !isMeta c && c != '\'' && c != '"' && c != '\\' && c != '$' && c != backquote

/-- Letters, digits and underscores. -/
def isNameChar (c : Char) : Bool := c.isAlphanum || c == '_'

/-- A letter or underscore. -/
def isNameStart (c : Char) : Bool := c.isAlpha || c == '_'

/-- Whether a text is a variable name. -/
def isName (s : String) : Bool :=
  match s.toList with
  | c :: rest => isNameStart c && rest.all isNameChar
  | [] => false

/-- Parameters written with one special character. -/
def isSpecialParam (c : Char) : Bool :=
  c == '?' || c == '$' || c == '#' || c == '@' || c == '*' || c == '!' || c == '-'

/-- The builtins whose arguments may be assignments. -/
def declarationBuiltins : List String := ["declare", "typeset", "local", "export", "readonly"]

/-! ## Moving through the text -/

def peekAt (k : Nat) : ParseM (Option Char) := do pure ((← get).peek k)

/-- Moves forward, jumping over here-document bodies already taken. -/
def advance (n : Nat) : ParseM Unit := modify fun s =>
  let p := s.pos + n
  let p := s.skips.foldl (fun p (a, b) => if p == a then b else p) p
  let p := s.skips.foldl (fun p (a, b) => if p == a then b else p) p
  { s with pos := p }

/-- The line of the current position. -/
def lineHere : ParseM Nat := do
  let s ← get
  pure (s.lineAt s.pos)

/-- The characters between two positions. -/
def textBetween (a b : Nat) : ParseM String := do
  pure (String.ofList ((← get).input.extract a b).toList)

/-- A bound on the steps of any loop over the text. -/
def stepBound : ParseM Nat := do pure ((← get).input.size + 2)

/-- Skips spaces, tabs, escaped line breaks and a comment. -/
def skipBlanks : ParseM Unit := do
  for _ in [0:(← stepBound)] do
    match ← peekAt 0 with
    | some ' ' | some '\t' => advance 1
    | some '\\' => if (← peekAt 1) == some '\n' then advance 2 else break
    | _ => break
  if (← peekAt 0) == some '#' then
    for _ in [0:(← stepBound)] do
      match ← peekAt 0 with
      | some '\n' | none => break
      | _ => advance 1

/-- Skips blanks, comments and line breaks. -/
def skipLinebreaks : ParseM Unit := do
  for _ in [0:(← stepBound)] do
    skipBlanks
    if (← peekAt 0) == some '\n' then advance 1 else break

/-- The next word when it is bare and short enough to be a reserved word, else "". -/
def peekBareWord : ParseM String := do
  let s ← get
  let window := (s.input.extract s.pos (s.pos + 10)).toList
  let cs := window.takeWhile isBareChar
  if cs.length ≥ 9 then pure ""
  else match s.peek cs.length with
    | none => pure (String.ofList cs)
    | some c => pure (if isMeta c then String.ofList cs else "")

/-- Operators, longest first. -/
def operators : List String :=
  [";;&", ";;", ";&", "&&", "||", ">>", "<<", "&>", ">&", "<&", "|&", ";", "&", "|", "(", ")",
    "<", ">"]

/-- The text of a word as written, quotes and all, up to an unquoted metacharacter;
`quote` is the quote it is inside. -/
def rawWord : Nat → List Char → Option Char → List Char
  | 0, _, _ => []
  | _ + 1, [], _ => []
  | fuel + 1, c :: rest, quote =>
      match quote with
      | some q =>
          if c == q then c :: rawWord fuel rest none
          else if c == '\\' && q == '"' then
            match rest with
            | d :: more => c :: d :: rawWord fuel more quote
            | [] => [c]
          else c :: rawWord fuel rest quote
      | none =>
          if c == '\'' || c == '"' then c :: rawWord fuel rest (some c)
          else if c == '\\' then
            match rest with
            | d :: more => c :: d :: rawWord fuel more none
            | [] => [c]
          else if isMeta c then []
          else c :: rawWord fuel rest none

/-- Fails at the current position, naming what was found there. -/
def unexpectedHere {α : Type} : ParseM α := do
  skipBlanks
  let s ← get
  match s.peek 0 with
  | none => failHere .unexpectedEnd
  | some '\n' => failHere (.unexpectedToken "newline")
  | some _ =>
      let rest := (s.input.extract s.pos (s.pos + 3)).toList
      match operators.find? (fun op => rest.take op.length == op.toList) with
      | some op => failHere (.unexpectedToken op)
      | none =>
          let word := rawWord ((s.input.extract s.pos s.input.size).toList.length + 1)
            (s.input.extract s.pos s.input.size).toList none
          failHere (.unexpectedToken (String.ofList word))

/-- Reads a reserved word that must come next. -/
def expectReserved (w : String) : ParseM Unit := do
  skipLinebreaks
  if (← peekBareWord) == w then advance w.length else unexpectedHere

/-- Reads a character that must come next. -/
def expectChar (c : Char) : ParseM Unit := do
  skipBlanks
  if (← peekAt 0) == some c then advance 1 else unexpectedHere

/-! ## Scanning nested text -/

/-- What a scan of nested text found still open at the end of the text: the closer it
waited for, and the position whose line a report names (where that construct opened, or
past the end of the text for a command substitution, which is read to the end). -/
abbrev Unclosed := Char × Nat

mutual

/-- The position of the character that closes what starts at `i`, for a stack of
expected closers (`)`, `}`, `]` or a double quote) with the positions they opened at.
Quotes, escapes, backquotes and nested substitutions are stepped over.  At the end of the
text, gives the innermost construct still open. -/
def scanCloser (input : Array Char) : Nat → Nat → List (Char × Nat) → Except Unclosed Nat
  | 0, _, _ => .error (')', input.size + 1)
  | fuel + 1, i, stack =>
      match stack with
      | [] => .error (')', input.size + 1)
      | (top, opened) :: below =>
          match input[i]? with
          | none => .error (top, opened)
          | some c =>
              let substitution : Bool :=
                c == '$' && input[i + 1]? == some '(' && input[i + 2]? != some '('
              if c == '\\' then scanCloser input fuel (i + 2) stack
              else if substitution then
                match scanSubst input fuel (i + 2) 1 0 true true with
                | .ok j => scanCloser input fuel (j + 1) stack
                | .error e => .error e
              else if top == '"' then
                if c == '"' then
                  if below.isEmpty then .ok i else scanCloser input fuel (i + 1) below
                else if c == '$' && input[i + 1]? == some '(' then
                  scanCloser input fuel (i + 2) ((')', i) :: stack)
                else if c == '$' && input[i + 1]? == some '\x7b' then
                  scanCloser input fuel (i + 2) (('\x7d', i) :: stack)
                else if c == backquote then
                  match (input.extract (i + 1) input.size).toList.idxOf? backquote with
                  | some k => scanCloser input fuel (i + k + 2) stack
                  | none => .error (backquote, i)
                else scanCloser input fuel (i + 1) stack
              else if c == top then
                if below.isEmpty then .ok i else scanCloser input fuel (i + 1) below
              else if c == '\'' && top != ']' then
                match (input.extract (i + 1) input.size).toList.idxOf? '\'' with
                | some k => scanCloser input fuel (i + k + 2) stack
                | none => .error ('\'', i)
              else if c == '"' then scanCloser input fuel (i + 1) (('"', i) :: stack)
              else if c == backquote then
                match (input.extract (i + 1) input.size).toList.idxOf? backquote with
                | some k => scanCloser input fuel (i + k + 2) stack
                | none => .error (backquote, i)
              else if c == '$' && input[i + 1]? == some '(' then
                scanCloser input fuel (i + 2) ((')', i) :: stack)
              else if c == '$' && input[i + 1]? == some '\x7b' then
                scanCloser input fuel (i + 2) (('\x7d', i) :: stack)
              else if c == '(' && top == ')' then scanCloser input fuel (i + 1) ((')', i) :: stack)
              else if c == '[' && top == ']' then scanCloser input fuel (i + 1) ((']', i) :: stack)
              else scanCloser input fuel (i + 1) stack

/-- The position of the `)` that ends a command substitution whose text starts at `i`.
Parentheses nest, except between `case` and `esac`, where the `)` after a pattern ends
nothing; a `#` that starts a word starts a comment; quotes and nested expansions are
stepped over.  `depth` counts the open parentheses, `cases` the open `case` commands;
`reserved` says a reserved word may start here and `wordStart` that a word may. -/
def scanSubst (input : Array Char) : Nat → Nat → Nat → Nat → Bool → Bool → Except Unclosed Nat
  | 0, _, _, _, _, _ => .error (')', input.size + 1)
  | fuel + 1, i, depth, cases, reserved, wordStart =>
      match input[i]? with
      | none => .error (')', input.size + 1)
      | some c =>
          if c == '\\' then scanSubst input fuel (i + 2) depth cases false false
          else if c == '\'' then
            match (input.extract (i + 1) input.size).toList.idxOf? '\'' with
            | some k => scanSubst input fuel (i + k + 2) depth cases false false
            | none => .error ('\'', i)
          else if c == '"' then
            match scanCloser input fuel (i + 1) [('"', i)] with
            | .ok j => scanSubst input fuel (j + 1) depth cases false false
            | .error e => .error e
          else if c == backquote then
            match (input.extract (i + 1) input.size).toList.idxOf? backquote with
            | some k => scanSubst input fuel (i + k + 2) depth cases false false
            | none => .error (backquote, i)
          else if c == '$' && input[i + 1]? == some '\x7b' then
            match scanCloser input fuel (i + 2) [('\x7d', i)] with
            | .ok j => scanSubst input fuel (j + 1) depth cases false false
            | .error e => .error e
          else if c == '$' && input[i + 1]? == some '(' && input[i + 2]? != some '(' then
            match scanSubst input fuel (i + 2) 1 0 true true with
            | .ok j => scanSubst input fuel (j + 1) depth cases false false
            | .error e => .error e
          else if c == '#' && wordStart then
            match (input.extract i input.size).toList.idxOf? '\n' with
            | some k => scanSubst input fuel (i + k) depth cases reserved true
            | none => .error (')', input.size + 1)
          else if c == '\n' || c == ';' || c == '&' || c == '|' then
            scanSubst input fuel (i + 1) depth cases true true
          else if c == ' ' || c == '\t' then scanSubst input fuel (i + 1) depth cases reserved true
          else if c == '(' then
            scanSubst input fuel (i + 1) (if cases == 0 then depth + 1 else depth) cases true true
          else if c == ')' then
            if cases == 0 then
              if depth ≤ 1 then .ok i else scanSubst input fuel (i + 1) (depth - 1) cases true true
            else scanSubst input fuel (i + 1) depth cases true true
          else if reserved && c.isLower then
            let word := (input.extract i input.size).toList.takeWhile Char.isLower
            let after := i + word.length
            let whole := match input[after]? with
              | none => true
              | some d => isMeta d
            let w := String.ofList word
            if !whole then scanSubst input fuel after depth cases false false
            else if w == "case" then scanSubst input fuel after depth (cases + 1) false false
            else if w == "esac" then scanSubst input fuel after depth (cases - 1) false false
            else if ["do", "then", "else", "elif", "if", "while", "until", "time", "in"].contains w then
              scanSubst input fuel after depth cases true false
            else scanSubst input fuel after depth cases false false
          else scanSubst input fuel (i + 1) depth cases false false

end

/-- The position of the character that closes what starts at `i`, for a stack of
expected closers, if the text closes it. -/
def findCloser (input : Array Char) (fuel i : Nat) (stack : List Char) : Option Nat :=
  (scanCloser input fuel i (stack.map fun c => (c, i))).toOption

/-- Where the command substitution whose text starts at `i` ends, or what is still open
at the end of the text. -/
def substEnd (input : Array Char) (i : Nat) : Except Unclosed Nat :=
  scanSubst input (input.size + 2) i 1 0 true true

/-- The position of the `))` that ends an arithmetic expansion begun before `i`, if the
parentheses balance that way. -/
def findArithEnd (input : Array Char) : Nat → Nat → Nat → Option Nat
  | 0, _, _ => none
  | fuel + 1, i, depth =>
      match input[i]? with
      | none => none
      | some '(' => findArithEnd input fuel (i + 1) (depth + 1)
      | some ')' =>
          if depth == 0 then
            if input[i + 1]? == some ')' then some i else none
          else findArithEnd input fuel (i + 1) (depth - 1)
      | some _ => findArithEnd input fuel (i + 1) depth

/-- The position of the `]` that closes a bracket opened before `i`. -/
def findBracketEnd (input : Array Char) (i : Nat) : Option Nat :=
  findCloser input (input.size + 2) i [']']

/-! ## Words -/

/-- Adds text to a word, joining a last text part of the same quoting. -/
def pushText (parts : Array WordPart) (s : String) (quoted : Bool) : Array WordPart :=
  match parts.back? with
  | some (.text t q) =>
      if q == quoted then parts.pop.push (.text (t ++ s) q) else parts.push (.text s quoted)
  | _ => parts.push (.text s quoted)

/-- The value of a hexadecimal or octal digit. -/
def digitValue (c : Char) : Nat :=
  if '0' ≤ c && c ≤ '9' then c.toNat - '0'.toNat
  else if 'a' ≤ c && c ≤ 'f' then c.toNat - 'a'.toNat + 10
  else if 'A' ≤ c && c ≤ 'F' then c.toNat - 'A'.toNat + 10
  else 0

/-- Whether a character is a digit of the base. -/
def isDigitIn (base : Nat) (c : Char) : Bool :=
  if base == 16 then c.isDigit || ('a' ≤ c && c ≤ 'f') || ('A' ≤ c && c ≤ 'F')
  else '0' ≤ c && c.toNat < '0'.toNat + base

/-- The control character of a letter, as `\cX` writes it; `\c?` is the delete
character. -/
def controlOf (c : Char) : Char := if c == '?' then Char.ofNat 127 else Char.ofNat (c.toUpper.toNat % 32)

/-- Up to `n` leading digits of a base, and what follows them. -/
def takeDigits (base n : Nat) (cs : List Char) : List Char × List Char :=
  let ds := (cs.take n).takeWhile (isDigitIn base)
  (ds, cs.drop ds.length)

/-- The value of digits of a base. -/
def digitsIn (base : Nat) (ds : List Char) : Nat := ds.foldl (fun v c => v * base + digitValue c) 0

/-- The text of a `$'...'` body with its escapes replaced: the usual letters, `\nnn` in
octal, `\xHH`, `\uHHHH` and `\UHHHHHHHH` in hexadecimal, `\cX` for a control
character; a backslash before any other character stays. -/
def ansiUnescape : Nat → List Char → String → String
  | 0, _, out => out
  | _ + 1, [], out => out
  | fuel + 1, c :: rest, out =>
      if c != '\\' then ansiUnescape fuel rest (out.push c)
      else
        match rest with
        | [] => out.push '\\'
        | d :: more =>
            let simple (e : Char) := ansiUnescape fuel more (out.push e)
            let hex (n : Nat) :=
              let (ds, after) := takeDigits 16 n more
              if ds.isEmpty then ansiUnescape fuel more ((out.push '\\').push d)
              else ansiUnescape fuel after (out.push (Char.ofNat (digitsIn 16 ds)))
            match d with
            | 'a' => simple (Char.ofNat 7)
            | 'b' => simple (Char.ofNat 8)
            | 'e' | 'E' => simple (Char.ofNat 27)
            | 'f' => simple (Char.ofNat 12)
            | 'n' => simple '\n'
            | 'r' => simple '\r'
            | 't' => simple '\t'
            | 'v' => simple (Char.ofNat 11)
            | '\\' | '\'' | '"' | '?' => simple d
            | 'x' => hex 2
            | 'u' => hex 4
            | 'U' => hex 8
            | 'c' =>
                match more with
                | e :: after => ansiUnescape fuel after (out.push (controlOf e))
                | [] => out ++ "\\c"
            | _ =>
                if isDigitIn 8 d then
                  let (ds, after) := takeDigits 8 2 more
                  ansiUnescape fuel after (out.push (Char.ofNat (digitsIn 8 (d :: ds) % 256)))
                else ansiUnescape fuel more ((out.push '\\').push d)

/-- Reads the body of a `$'...'` string after its opening quote, with its escapes. -/
def readAnsiQuoted : ParseM String := do
  let start := (← get).pos
  let mut body : Array Char := #[]
  for _ in [0:(← stepBound)] do
    match ← peekAt 0 with
    | none => failAt (.unmatched '\'') start
    | some '\'' =>
        advance 1
        return ansiUnescape (body.size + 1) body.toList ""
    | some '\\' =>
        advance 1
        body := body.push '\\'
        match ← peekAt 0 with
        | some c => advance 1; body := body.push c
        | none => pure ()
    | some c => advance 1; body := body.push c
  failAt (.unmatched '\'') start

/-- Reads an old-style command substitution after its opening backquote; inside, a
backslash before a dollar sign, backquote or backslash (or, within double quotes, a
double quote) stands for that character. -/
def readBackquoted (inDouble : Bool) : ParseM String := do
  let start := (← get).pos
  let mut out := ""
  for _ in [0:(← stepBound)] do
    match ← peekAt 0 with
    | none => failAt (.unmatched backquote) start
    | some '\\' =>
        match ← peekAt 1 with
        | some c =>
            if c == '$' || c == backquote || c == '\\' || (inDouble && c == '"') then
              advance 2; out := out.push c
            else
              advance 2; out := (out.push '\\').push c
        | none => advance 1; out := out.push '\\'
    | some c =>
        advance 1
        if c == backquote then return out
        out := out.push c
  failAt (.unmatched backquote) start

/-! ## Parameter expansions -/

/-- A parameter name at the start of characters, with a subscript after a variable
name: the name, the subscript's text, and what follows. -/
def readParamName (cs : List Char) : Option (String × Option String × List Char) :=
  match cs with
  | c :: more =>
      if isNameStart c then
        let n := (c :: more).takeWhile isNameChar
        let rest := (c :: more).drop n.length
        match rest with
        | '[' :: after =>
            let arr := after.toArray
            match findCloser arr (arr.size + 2) 0 [']'] with
            | some j => some (String.ofList n, some (String.ofList (after.take j)), after.drop (j + 1))
            | none => none
        | _ => some (String.ofList n, none, rest)
      else if c.isDigit then
        let n := (c :: more).takeWhile Char.isDigit
        some (String.ofList n, none, (c :: more).drop n.length)
      else if isSpecialParam c then some (c.toString, none, more)
      else none
  | [] => none

/-- Splits text at the first `/` that is not quoted, escaped or inside an expansion. -/
def splitAtSlash (cs : List Char) : List Char × Option (List Char) :=
  let arr := cs.toArray
  let rec go : Nat → Nat → Option Nat
    | 0, _ => none
    | fuel + 1, i =>
        match arr[i]? with
        | none => none
        | some '/' => some i
        | some '\\' => go fuel (i + 2)
        | some '\'' =>
            match (arr.extract (i + 1) arr.size).toList.idxOf? '\'' with
            | some k => go fuel (i + k + 2)
            | none => none
        | some '"' =>
            match findCloser arr (arr.size + 2) (i + 1) ['"'] with
            | some j => go fuel (j + 1)
            | none => none
        | some '$' =>
            match arr[i + 1]? with
            | some '\x7b' =>
                match findCloser arr (arr.size + 2) (i + 2) ['\x7d'] with
                | some j => go fuel (j + 1)
                | none => none
            | some '(' =>
                match (substEnd arr (i + 2)).toOption with
                | some j => go fuel (j + 1)
                | none => none
            | _ => go fuel (i + 1)
        | some _ => go fuel (i + 1)
  match go (cs.length + 1) 0 with
  | some k => (cs.take k, some (cs.drop (k + 1)))
  | none => (cs, none)

/-- Splits the text of `${name:offset:length}` at the colon that ends the offset: the
first one not answering a `?`. -/
def splitSlice (cs : List Char) : List Char × Option (List Char) :=
  let rec go : Nat → List Char → Nat → List Char → List Char × Option (List Char)
    | 0, acc, _, rest => (acc.reverse ++ rest, none)
    | _ + 1, acc, _, [] => (acc.reverse, none)
    | fuel + 1, acc, pending, c :: rest =>
        if c == '?' then go fuel (c :: acc) (pending + 1) rest
        else if c == ':' then
          if pending == 0 then (acc.reverse, some rest) else go fuel (c :: acc) (pending - 1) rest
        else go fuel (c :: acc) pending rest
  go (cs.length + 1) [] 0 cs

/-- The operator of a parameter expansion, from the characters after the parameter. -/
def readParamOp (rest : List Char) : Option ParamOp :=
  let text (cs : List Char) := String.ofList cs
  match rest with
  | [] => some .value
  | ':' :: '-' :: w => some (.ifUnset true (text w))
  | ':' :: '=' :: w => some (.assignIfUnset true (text w))
  | ':' :: '+' :: w => some (.ifSet true (text w))
  | ':' :: '?' :: w => some (.failIfUnset true (text w))
  | ':' :: w =>
      let (off, len) := splitSlice w
      some (.slice (text off) (len.map text))
  | '-' :: w => some (.ifUnset false (text w))
  | '=' :: w => some (.assignIfUnset false (text w))
  | '+' :: w => some (.ifSet false (text w))
  | '?' :: w => some (.failIfUnset false (text w))
  | '#' :: '#' :: w => some (.dropPrefix true (text w))
  | '#' :: w => some (.dropPrefix false (text w))
  | '%' :: '%' :: w => some (.dropSuffix true (text w))
  | '%' :: w => some (.dropSuffix false (text w))
  | '/' :: w =>
      let (anchor, body) := match w with
        | '/' :: b => (ReplaceAnchor.all, b)
        | '#' :: b => (ReplaceAnchor.start, b)
        | '%' :: b => (ReplaceAnchor.finish, b)
        | b => (ReplaceAnchor.first, b)
      let (pat, rep) := splitAtSlash body
      some (.replace anchor (text pat) (text (rep.getD [])))
  | '^' :: '^' :: w => some (.changeCase .upper true (text w))
  | '^' :: w => some (.changeCase .upper false (text w))
  | ',' :: ',' :: w => some (.changeCase .lower true (text w))
  | ',' :: w => some (.changeCase .lower false (text w))
  | '~' :: '~' :: w => some (.changeCase .toggle true (text w))
  | '~' :: w => some (.changeCase .toggle false (text w))
  | '@' :: op => some (.transform (String.ofList op))
  | _ => none

/-- The expansion written inside `${...}`. -/
def readBraceBody (body : List Char) (quoted : Bool) : WordPart :=
  let whole := "$\x7b" ++ String.ofList body ++ "\x7d"
  let bad := WordPart.invalid whole
  let general (cs : List Char) (indirect : Bool) : WordPart :=
    match readParamName cs with
    | some (name, sub, rest) =>
        match readParamOp rest with
        | some op => .param { name, subscript := sub, indirect } op quoted
        | none => bad
    | none => bad
  match body with
  | '#' :: rest@(_ :: _) =>
      match readParamName rest with
      | some (name, sub, []) => .param { name, subscript := sub } .length quoted
      | _ => general body false
  | '!' :: rest@(_ :: _) =>
      let prefixForm : Option WordPart :=
        match rest.getLast? with
        | some last =>
            if (last == '*' || last == '@') && isName (String.ofList rest.dropLast) then
              some (.param { name := String.ofList rest.dropLast, subscript := some last.toString }
                .namesWithPrefix quoted)
            else none
        | none => none
      match prefixForm with
      | some p => p
      | none =>
          match readParamName rest with
          | some (name, some s, []) =>
              if s == "@" || s == "*" then .param { name, subscript := some s } .keys quoted
              else general rest true
          | _ => general rest true
  | _ => general body false

/-- Reads what follows `${` up to the matching `}`. -/
def readBraceParam (quoted : Bool) : ParseM WordPart := do
  let start := (← get).pos
  let input := (← get).input
  let close ← match scanCloser input (input.size + 2) start [('\x7d', start - 2)] with
    | .ok j => pure j
    | .error (c, p) => failAt (.unmatched c) p
  let body := (input.extract start close).toList
  advance (close + 1 - start)
  pure (readBraceBody body quoted)

/-- Reads an expansion that starts with `$` and adds it to the word. -/
def readDollar (parts : Array WordPart) (quoted : Bool) : ParseM (Array WordPart) := do
  let s ← get
  match s.peek 1 with
  | some '(' =>
      if s.peek 2 == some '(' then
        match findArithEnd s.input (s.input.size + 2) (s.pos + 3) 0 with
        | some j =>
            let src ← textBetween (s.pos + 3) j
            advance (j + 2 - s.pos)
            return parts.push (.arith src quoted)
        | none => pure ()
      match substEnd s.input (s.pos + 2) with
      | .ok j =>
          let src ← textBetween (s.pos + 2) j
          advance (j + 1 - s.pos)
          pure (parts.push (.command src quoted))
      | .error (c, p) => failAt (.unmatched c) p
  | some '[' =>
      match findBracketEnd s.input (s.pos + 2) with
      | some j =>
          let src ← textBetween (s.pos + 2) j
          advance (j + 1 - s.pos)
          pure (parts.push (.arith src quoted))
      | none => failHere (.unmatched ']')
  | some '\x7b' =>
      advance 2
      pure (parts.push (← readBraceParam quoted))
  | some '\'' =>
      if quoted then
        advance 1
        pure (pushText parts "$" quoted)
      else
        advance 2
        pure (pushText parts (← readAnsiQuoted) true)
  | some '"' =>
      if quoted then
        advance 1
        pure (pushText parts "$" quoted)
      else
        advance 1
        pure parts
  | some c =>
      if isNameStart c then
        let name := (s.input.extract (s.pos + 1) s.input.size).toList.takeWhile isNameChar
        advance (name.length + 1)
        pure (parts.push (.param { name := String.ofList name } .value quoted))
      else if c.isDigit || isSpecialParam c || c == '_' then
        advance 2
        pure (parts.push (.param { name := c.toString } .value quoted))
      else
        advance 1
        pure (pushText parts "$" quoted)
  | none =>
      advance 1
      pure (pushText parts "$" quoted)

/-- Reads a double-quoted stretch after its opening quote.  An empty stretch is an empty
quoted text, which keeps its word; a stretch holding only `"$@"` keeps none when there
is nothing to expand. -/
def readDoubleQuoted (parts : Array WordPart) : ParseM (Array WordPart) := do
  let start := (← get).pos - 1
  let before := parts.size
  let mut parts := parts
  for _ in [0:(← stepBound)] do
    match ← peekAt 0 with
    | none => failAt (.unmatched '"') start
    | some '"' =>
        advance 1
        return (if parts.size == before then pushText parts "" true else parts)
    | some '\\' =>
        match ← peekAt 1 with
        | some '\n' => advance 2
        | some c =>
            if c == '$' || c == backquote || c == '"' || c == '\\' then
              advance 2; parts := pushText parts c.toString true
            else
              advance 2; parts := pushText parts ("\\" ++ c.toString) true
        | none => advance 1; parts := pushText parts "\\" true
    | some '$' => parts ← readDollar parts true
    | some c =>
        if c == backquote then
          advance 1
          parts := parts.push (.command (← readBackquoted true) true)
        else
          advance 1
          parts := pushText parts c.toString true
  failAt (.unmatched '"') start

/-- How a word is being read: as a command word, or as the regular expression of `=~`,
where parentheses and bars, and every metacharacter inside parentheses, belong to the
word; a parenthesis left open at the end of the text is an error. -/
inductive WordMode where
  | plain
  | regex
  /-- A word whose metacharacters before a position are its own: a subscript written in
  command position, which runs to its closing bracket. -/
  | through (stop : Nat)
  deriving DecidableEq, Repr

/-- Reads one word up to an unquoted metacharacter. -/
def readWordIn (mode : WordMode) : ParseM Word := do
  let mut parts : Array WordPart := #[]
  let mut depth : Nat := 0
  let mut opened : Nat := 0
  for _ in [0:(← stepBound)] do
    match ← peekAt 0 with
    | none =>
        if depth > 0 then failAt (.unmatched ')') opened
        break
    | some c =>
        let next ← peekAt 1
        let here := (← get).pos
        if mode == .regex && (c == '(' || c == '|' || (depth > 0 && isMeta c)) then
          if c == '(' then
            if depth == 0 then opened := (← get).pos
            depth := depth + 1
          if c == ')' then depth := depth - 1
          advance 1
          parts := pushText parts c.toString false
        else if (c == '<' || c == '>') && next == some '(' then
          let s ← get
          match substEnd s.input (s.pos + 2) with
          | .ok j =>
              let src ← textBetween (s.pos + 2) j
              advance (j + 1 - s.pos)
              parts := parts.push (.process src (c == '>'))
          | .error (u, p) => failAt (.unmatched u) p
        else if isMeta c && (match mode with
            | .through stop => here ≥ stop
            | _ => true) then break
        else if isMeta c then
          advance 1
          parts := pushText parts c.toString false
        else if "?*+@!".toList.contains c && next == some '(' && (← get).extglob then
          -- an extended pattern group, kept as pattern text
          let s ← get
          match findCloser s.input (s.input.size + 2) (s.pos + 2) [')'] with
          | some j =>
              let src ← textBetween s.pos (j + 1)
              advance (j + 1 - s.pos)
              parts := pushText parts src false
          | none => failHere (.unmatched ')')
        else if c == '\'' then
          let start := (← get).pos
          advance 1
          let s ← get
          match (s.input.extract s.pos s.input.size).toList.idxOf? '\'' with
          | some k =>
              let text ← textBetween s.pos (s.pos + k)
              advance (k + 1)
              parts := pushText parts text true
          | none => failAt (.unmatched '\'') start
        else if c == '"' then
          advance 1
          parts ← readDoubleQuoted parts
        else if c == '\\' then
          match next with
          | some '\n' => advance 2
          | some d => advance 2; parts := pushText parts d.toString true
          | none => advance 1; parts := pushText parts "\\" false
        else if c == '$' then
          parts ← readDollar parts false
        else if c == backquote then
          advance 1
          parts := parts.push (.command (← readBackquoted false) false)
        else
          advance 1
          parts := pushText parts c.toString false
  pure parts.toList

/-- Reads one word up to an unquoted metacharacter. -/
def readWord : ParseM Word := readWordIn .plain

/-- The plain text of a word written without quotes or expansions. -/
def Word.bare? : Word → Option String
  | [.text s false] => some s
  | _ => none

/-! ## Assignments -/

/-- An assignment starting at the current position: the name, the subscript's text, whether
it is `+=`, and how many characters it takes up to and including the `=`.  In command
position (`spaced`) a subscript runs to its closing bracket; elsewhere it ends, with the
word, at a blank or operator that is not quoted. -/
def peekAssignment (spaced : Bool) : ParseM (Option (String × Option String × Bool × Nat)) := do
  let s ← get
  let rest := (s.input.extract s.pos s.input.size).toList
  match rest with
  | c :: _ =>
      if !isNameStart c then return none
      let name := rest.takeWhile isNameChar
      let after := rest.drop name.length
      let (sub, after, used) ← match after with
        | '[' :: _ =>
            match findBracketEnd s.input (s.pos + name.length + 1) with
            | some j =>
                if !spaced && (rawWord (rest.length + 1) rest none).length ≤ j - s.pos then
                  return none
                let subText := String.ofList (s.input.extract (s.pos + name.length + 1) j).toList
                pure (some subText, (s.input.extract (j + 1) s.input.size).toList, j + 1 - s.pos)
            | none => return none
        | _ => pure (none, after, name.length)
      match after with
      | '=' :: _ => pure (some (String.ofList name, sub, false, used + 1))
      | '+' :: '=' :: _ => pure (some (String.ofList name, sub, true, used + 2))
      | _ => pure none
  | [] => pure none

/-- In command position, a name and `[` start a word that runs through the matching `]`,
blanks and operators inside included: gives where that bracket ends, or nothing when no
such word starts here.  A bracket never closed is an error. -/
def subscriptWordEnd? : ParseM (Option Nat) := do
  let s ← get
  let window := (s.input.extract s.pos s.input.size).toList
  match window with
  | c :: _ =>
      if !isNameStart c then return none
      let name := window.takeWhile isNameChar
      match window.drop name.length with
      | '[' :: _ =>
          match findBracketEnd s.input (s.pos + name.length + 1) with
          | some j => pure (some (j + 1))
          | none => failHere (.unmatched ']')
      | _ => pure none
  | [] => pure none

/-- Skips blanks, comments and line breaks inside an array assignment. -/
def skipArrayBlanks : ParseM Unit := skipLinebreaks

/-- Reads the elements of an array assignment after its `(`, up to the `)`. -/
def readArrayItems (start : Nat) : ParseM (List ArrayItem) := do
  let mut items : Array ArrayItem := #[]
  for _ in [0:(← stepBound)] do
    skipArrayBlanks
    match ← peekAt 0 with
    | none => failAt .unclosedArray start
    | some ')' =>
        advance 1
        return items.toList
    | some c =>
        if isMeta c then unexpectedHere
        let s ← get
        let keyed ← if c == '[' then
            match findBracketEnd s.input (s.pos + 1) with
            | some j =>
                let key := String.ofList (s.input.extract (s.pos + 1) j).toList
                if s.input[j + 1]? == some '=' then pure (some (key, false, j + 2 - s.pos))
                else if s.input[j + 1]? == some '+' && s.input[j + 2]? == some '=' then
                  pure (some (key, true, j + 3 - s.pos))
                else pure none
            | none => pure none
          else pure none
        match keyed with
        | some (key, append, used) =>
            advance used
            items := items.push { key := some key, append, value := ← readWord }
        | none =>
            items := items.push { value := ← readWord }
  failAt .unclosedArray start

/-- Reads an assignment whose name part `peekAssignment` found, taking `used`
characters first. -/
def readAssignment (name : String) (sub : Option String) (append : Bool) (used : Nat) :
    ParseM Assignment := do
  advance used
  if (← peekAt 0) == some '(' then
    let start := (← get).pos
    advance 1
    let items ← readArrayItems start
    pure { name, subscript := sub, append, value := .list items }
  else
    pure { name, subscript := sub, append, value := .scalar (← readWord) }

/-! ## Here-documents -/

/-- Reads a here-document body as an expanded word: like double quotes, except that a
double quote is plain and a backslash escapes only `$`, a backquote, a backslash and a
line break. -/
def readHereBody : ParseM Word := do
  let mut parts : Array WordPart := pushText #[] "" true
  for _ in [0:(← stepBound)] do
    match ← peekAt 0 with
    | none => break
    | some '\\' =>
        match ← peekAt 1 with
        | some '\n' => advance 2
        | some c =>
            if c == '$' || c == backquote || c == '\\' then
              advance 2; parts := pushText parts c.toString true
            else
              advance 2; parts := pushText parts ("\\" ++ c.toString) true
        | none => advance 1; parts := pushText parts "\\" true
    | some '$' => parts ← readDollar parts true
    | some c =>
        if c == backquote then
          advance 1
          parts := parts.push (.command (← readBackquoted false) true)
        else
          advance 1
          parts := pushText parts c.toString true
  pure parts.toList

/-- Takes a here-document's lines: those after the end of the current line (and after the
bodies already taken there), up to the delimiter line (with leading tabs removed when
`stripTabs`).  Gives the body, each line ending in a line feed, and marks its lines to
be skipped.  A body that runs to the end of the text is a warning, on the last line. -/
def takeHereLines (delimiter : String) (stripTabs : Bool) : ParseM String := do
  let s ← get
  let rest := (s.input.extract s.pos s.input.size).toList
  let unterminated (st : Source) : Source :=
    let lastLine := st.lineAt (st.input.size - (if st.input.back? == some '\n' then 1 else 0))
    { st with warnings := st.warnings ++ [(lastLine, "warning: here-document at line " ++
        toString (st.lineAt s.pos) ++ " delimited by end-of-file (wanted \x60" ++ delimiter ++ "')")] }
  match rest.idxOf? '\n' with
  | none =>
      set (unterminated s)
      pure ""
  | some k =>
      let bodyStart := s.skips.foldl (fun p (a, b) => if p == a then b else p) (s.pos + k + 1)
      let after := (s.input.extract bodyStart s.input.size).toList
      let lines := (String.ofList after).splitOn "\n"
      let clean (line : String) : String :=
        if stripTabs then String.ofList (line.toList.dropWhile (· == '\t')) else line
      let rec collect : List String → List String → Nat → (List String × Nat × Bool)
        | [], acc, used => (acc.reverse, used, false)
        | line :: more, acc, used =>
            if clean line == delimiter then (acc.reverse, used + line.length + 1, true)
            else collect more (clean line :: acc) (used + line.length + 1)
      let (body, used, found) := collect lines [] 0
      -- at the end of the text, a last line without a line feed still counts as a line
      let body := if !found && after.getLast? == some '\n' then body.dropLast else body
      let used := min used after.length
      let s := { s with skips := s.skips ++ [(bodyStart, bodyStart + used)] }
      set (if found then s else unterminated s)
      pure (String.join (body.map (· ++ "\n")))

/-- The text of a here-document delimiter word and whether any of it was quoted. -/
def delimiterText (w : Word) : String × Bool :=
  w.foldl (fun (acc : String × Bool) p =>
    match p with
    | .text s q => (acc.1 ++ s, acc.2 || q)
    | .param r _ q => (acc.1 ++ "$" ++ r.name, acc.2 || q)
    | .command src q => (acc.1 ++ "$(" ++ src ++ ")", acc.2 || q)
    | .arith src q => (acc.1 ++ "$((" ++ src ++ "))", acc.2 || q)
    | .process src o => (acc.1 ++ (if o then ">(" else "<(") ++ src ++ ")", acc.2)
    | .invalid t => (acc.1 ++ t, acc.2)) ("", false)

/-! ## Redirections -/

/-- Reads the word a redirection operator needs. -/
def redirectWord : ParseM Word := do
  skipBlanks
  match ← peekAt 0 with
  | none => unexpectedHere
  | some c =>
      if isMeta c && !((c == '<' || c == '>') && (← peekAt 1) == some '(') then unexpectedHere
      else readWord

/-- Reads the word a redirection operator needs, with its text as written. -/
def redirectTarget : ParseM Target := do
  skipBlanks
  let start := (← get).pos
  let word ← redirectWord
  let s ← get
  pure { word, written := String.ofList (s.input.extract start s.pos).toList }

/-- Reads what follows `>&` or `<&`: a `-` there closes the descriptor and is a word of
its own, whatever follows it. -/
def duplicateTarget : ParseM Target := do
  skipBlanks
  if (← peekAt 0) == some '-' then
    advance 1
    pure { word := [.text "-" false], written := "-" }
  else redirectTarget

/-- Reads a redirection at the current position, if one starts here. -/
def readRedirect? : ParseM (Option Redirect) := do
  let s ← get
  let window := (s.input.extract s.pos (s.pos + 40)).toList
  -- `{name}` before the operator names a descriptor to allocate
  let named : Option (String × Nat) :=
    match window with
    | '\x7b' :: more =>
        let n := more.takeWhile (fun c => isNameChar c || c == '[' || c == ']')
        match more.drop n.length with
        | '\x7d' :: op :: _ =>
            if (op == '<' || op == '>') && !n.isEmpty && isNameStart (n.headD ' ') then
              some (String.ofList n, n.length + 2)
            else none
        | _ => none
    | _ => none
  let digits := window.takeWhile Char.isDigit
  let fdValue := digits.foldl (fun n c => n * 10 + digitValue c) 0
  -- digits too large for a descriptor are a word of their own
  if named.isNone && fdValue > 2147483647 then return none
  let (k, fdGiven) : Nat × Option FdSpec := match named with
    | some (n, used) => (used, some (.named n))
    | none =>
        if digits.isEmpty then (0, none)
        else (digits.length, some (.fixed fdValue))
  match s.peek k, s.peek (k + 1), s.peek (k + 2) with
  | some '>', next, _ =>
      if next == some '(' then return none
      let fd := fdGiven.getD (.fixed 1)
      if next == some '>' then
        advance (k + 2); return some (.output fd (← redirectTarget) true false)
      else if next == some '&' then
        advance (k + 2); return some (.duplicate fd (← duplicateTarget) true)
      else if next == some '|' then
        advance (k + 2); return some (.output fd (← redirectTarget) false true)
      else
        advance (k + 1); return some (.output fd (← redirectTarget) false false)
  | some '<', next, third =>
      if next == some '(' then return none
      let fd := fdGiven.getD (.fixed 0)
      if next == some '<' && third == some '<' then
        advance (k + 3); return some (.hereText fd (← redirectWord) true)
      else if next == some '<' then
        let stripTabs := third == some '-'
        advance (k + 2 + (if stripTabs then 1 else 0))
        let (delimiter, quoted) := delimiterText (← redirectWord)
        let text ← takeHereLines delimiter stripTabs
        if quoted then return some (.hereText fd [.text text true] false)
        let saved ← get
        set ({ input := text.toList.toArray } : Source)
        let body ← readHereBody
        set saved
        return some (.hereText fd body false)
      else if next == some '&' then
        advance (k + 2); return some (.duplicate fd (← duplicateTarget) false)
      else if next == some '>' then
        advance (k + 2); return some (.readWrite fd (← redirectTarget))
      else
        advance (k + 1); return some (.input fd (← redirectTarget))
  | some '&', some '>', third =>
      if k == 0 then
        if third == some '>' then
          advance 3; return some (.outputBoth (← redirectTarget) true)
        else
          advance 2; return some (.outputBoth (← redirectTarget) false)
      else pure none
  | _, _, _ => pure none

/-- Reads the redirections after a compound command. -/
def readRedirects : ParseM (List Redirect) := do
  let mut out : Array Redirect := #[]
  for _ in [0:(← stepBound)] do
    skipBlanks
    match ← readRedirect? with
    | some r => out := out.push r
    | none => break
  pure out.toList

/-! ## Whole texts as words -/


/-- Reads a whole text as an unquoted word: quotes and expansions count, blanks and
operators are plain. -/
def readPlainWord (text : String) : Except ParseError Word :=
  let body : ParseM Word := do
    let mut parts : Array WordPart := #[]
    for _ in [0:(← stepBound)] do
      match ← peekAt 0 with
      | none => break
      | some c =>
          if isMeta c && !((c == '<' || c == '>') && (← peekAt 1) == some '(') then
            advance 1
            parts := pushText parts c.toString false
          else
            let before := (← get).pos
            let w ← readWord
            if (← get).pos == before then
              advance 1
              parts := pushText parts c.toString false
            else
              for p in w do
                match p with
                | .text t q => parts := pushText parts t q
                | other => parts := parts.push other
    pure parts.toList
  (body.run.run (Source.ofText text)).1

/-- Reads the text inside `"${name:-word}"`, or arithmetic text: like double quotes,
where a double quote opens a quoted stretch and single quotes are plain. -/
def readQuotedInner (text : String) : Except ParseError Word :=
  let body : ParseM Word := do
    let mut parts : Array WordPart := pushText #[] "" true
    for _ in [0:(← stepBound)] do
      match ← peekAt 0 with
      | none => break
      | some '"' =>
          advance 1
          parts ← readDoubleQuoted parts
      | some '\\' =>
          match ← peekAt 1 with
          | some c =>
              if c == '$' || c == backquote || c == '"' || c == '\\' || c == '\x7d' then
                advance 2; parts := pushText parts c.toString true
              else
                advance 2; parts := pushText parts ("\\" ++ c.toString) true
          | none => advance 1; parts := pushText parts "\\" true
      | some '$' => parts ← readDollar parts true
      | some c =>
          if c == backquote then
            advance 1
            parts := parts.push (.command (← readBackquoted true) true)
          else
            advance 1
            parts := pushText parts c.toString true
    pure parts.toList
  (body.run.run (Source.ofText text)).1

/-- Reads arithmetic text as a word: expansions count, double quotes are removed, and
single quotes stay as they are (and then are wrong in the expression). -/
def readArithWord (text : String) : Except ParseError Word := readQuotedInner text

end BuildWorker.Shell
