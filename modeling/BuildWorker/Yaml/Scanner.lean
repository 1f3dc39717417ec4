/-!
# Reading YAML: tokens

The first stage of reading YAML turns characters into tokens: indicators, scalars,
anchors, tags, and the structural tokens that the indentation implies (the start and
end of block collections).  It follows the classic design of YAML 1.1 scanners:

* A *simple key* is a scalar or flow collection that turns out to be a mapping key only
  when a `:` follows it on the same line.  The scanner remembers where each possible
  simple key starts, and when the `:` comes it inserts the `KEY` token (and, in block
  context, a `BLOCK-MAPPING-START`) back at that place in the token queue.  A key that
  must be simple (at the indentation of a block mapping) and is never completed is an
  error.
* Indentation is a stack of columns: a deeper block collection pushes its column, and a
  line starting further left pops levels, one `BLOCK-END` each.
* Tokens are produced lazily, just far enough that no pending simple key can still
  change the token at the head of the queue.  So an error further on is met only when
  the reader asks for a token past it.

Positions are marks: a character index, a line and a column, all counted from zero.
Errors carry the problem and its mark, and usually the construct being read and where
it began.
-/

set_option autoImplicit false

namespace BuildWorker.Yaml

/-- A position in the text: character index, line and column, from zero. -/
structure Mark where
  index : Nat := 0
  line : Nat := 0
  column : Nat := 0
  deriving DecidableEq, Repr, Inhabited

/-- A mark as shown to a person, lines and columns from one. -/
def Mark.render (m : Mark) : String :=
  "line " ++ toString (m.line + 1) ++ " column " ++ toString (m.column + 1)

/-- Whether a mark is the very start of the text, where messages leave it out. -/
def Mark.isStart (m : Mark) : Bool := m.line == 0 && m.column == 0

/-- An error of the syntax stages: the problem and where it was found, the byte offset
for errors found before any mark, and the construct being read with where it began. -/
structure SyntaxError where
  problem : String
  mark : Mark := {}
  offset : Nat := 0
  context : Option (String × Mark) := none
  deriving DecidableEq, Repr, Inhabited

/-- The wording of a syntax error: the problem, its place, then the context and its
place when that differs. -/
def SyntaxError.render (e : SyntaxError) : String :=
  let place :=
    if !e.mark.isStart then " at " ++ e.mark.render
    else if e.offset != 0 then " at position " ++ toString e.offset
    else ""
  let context := match e.context with
    | some (c, m) =>
        ", " ++ c ++
          (if !m.isStart && (m.line != e.mark.line || m.column != e.mark.column) then
            " at " ++ m.render else "")
    | none => ""
  e.problem ++ place ++ context

/-- How a scalar was written. -/
inductive ScalarStyle where
  | plain
  | singleQuoted
  | doubleQuoted
  | literal
  | folded
  deriving DecidableEq, Repr, Inhabited

/-- The kinds of tokens. -/
inductive TokenKind where
  | streamStart
  | streamEnd
  | versionDirective (major minor : Nat)
  | tagDirective (handle pre : String)
  | documentStart
  | documentEnd
  | blockSequenceStart
  | blockMappingStart
  | blockEnd
  | flowSequenceStart
  | flowSequenceEnd
  | flowMappingStart
  | flowMappingEnd
  | blockEntry
  | flowEntry
  | key
  | value
  | alias (name : String)
  | anchor (name : String)
  | tag (handle suffix : String)
  | scalar (text : String) (style : ScalarStyle)
  deriving DecidableEq, Repr, Inhabited

/-- A token with the marks of its first character and of the character after it. -/
structure Token where
  kind : TokenKind
  start : Mark
  stop : Mark
  deriving DecidableEq, Repr, Inhabited

/-- A place where a simple key may have started. -/
structure SimpleKey where
  possible : Bool
  required : Bool
  tokenNumber : Nat
  mark : Mark
  deriving Repr, Inhabited

/-- The scanner: the text, the cursor, the queue of tokens not yet taken, and the
state of indentation, flow nesting and simple keys. -/
structure Scanner where
  input : Array Char
  pos : Nat := 0
  mark : Mark := {}
  queue : Array Token := #[]
  taken : Nat := 0
  started : Bool := false
  ended : Bool := false
  flowLevel : Nat := 0
  indent : Int := -1
  indents : List Int := []
  keyAllowed : Bool := false
  keys : List SimpleKey := []
  available : Bool := false
  deriving Inhabited

/-- A scanning step: it moves the scanner and may stop with an error. -/
abbrev ScanM := ExceptT SyntaxError (StateM Scanner)

/-! ## Characters -/

/-- Line breaks: CR, LF, NEL, LS and PS. -/
def isBreak (c : Char) : Bool :=
  c == '\r' || c == '\n' || c.toNat == 0x85 || c.toNat == 0x2028 || c.toNat == 0x2029

/-- Spaces and tabs. -/
def isBlank (c : Char) : Bool := c == ' ' || c == '\t'

/-- Characters of anchors, tag handles and the like: ASCII letters, digits, `_`, `-`. -/
def isWordChar (c : Char) : Bool :=
  c.isAlphanum && c.toNat < 128 || c == '_' || c == '-'

/-- Whether a character may appear in a tag URI. -/
def isUriChar (verbatim : Bool) (c : Char) : Bool :=
  isWordChar c || ";/?:@&=+$.%!~*'()".contains c || (verbatim && ",[]".contains c)

/-- The character `k` places ahead of the cursor. -/
def Scanner.peek (s : Scanner) (k : Nat) : Option Char := s.input[s.pos + k]?

/-- Whether the character `k` ahead is the given one. -/
def Scanner.isAt (s : Scanner) (k : Nat) (c : Char) : Bool := s.peek k == some c

/-- Whether the text ends `k` ahead. -/
def Scanner.endsAt (s : Scanner) (k : Nat) : Bool := (s.peek k).isNone

/-- Whether the character `k` ahead is a break. -/
def Scanner.breakAt (s : Scanner) (k : Nat) : Bool := ((s.peek k).map isBreak).getD false

/-- Whether the character `k` ahead is a blank. -/
def Scanner.blankAt (s : Scanner) (k : Nat) : Bool := ((s.peek k).map isBlank).getD false

/-- Whether the character `k` ahead is a blank, a break, or the end. -/
def Scanner.blankzAt (s : Scanner) (k : Nat) : Bool :=
  match s.peek k with
  | some c => isBlank c || isBreak c
  | none => true

/-- Whether the character `k` ahead is a break or the end. -/
def Scanner.breakzAt (s : Scanner) (k : Nat) : Bool :=
  match s.peek k with
  | some c => isBreak c
  | none => true

/-- Whether a document marker (`---` or `...` then a blank) starts at the cursor, at
the start of a line. -/
def Scanner.atDocumentMarker (s : Scanner) : Bool :=
  s.mark.column == 0 &&
    ((s.isAt 0 '-' && s.isAt 1 '-' && s.isAt 2 '-') ||
     (s.isAt 0 '.' && s.isAt 1 '.' && s.isAt 2 '.')) && s.blankzAt 3

/-! ## Moving the cursor -/

/-- Steps over one character on a line. -/
def skip : ScanM Unit :=
  modify fun s =>
    { s with
      pos := s.pos + 1,
      mark := { s.mark with index := s.mark.index + 1, column := s.mark.column + 1 } }

/-- Steps over a line break (CR LF counts as one). -/
def skipLine : ScanM Unit :=
  modify fun s =>
    if s.isAt 0 '\r' && s.isAt 1 '\n' then
      { s with
        pos := s.pos + 2,
        mark := { index := s.mark.index + 2, line := s.mark.line + 1, column := 0 } }
    else if s.breakAt 0 then
      { s with
        pos := s.pos + 1,
        mark := { index := s.mark.index + 1, line := s.mark.line + 1, column := 0 } }
    else s

/-- Steps over one character, appending it to the text. -/
def readChar (acc : String) : ScanM String := do
  let s ← get
  match s.peek 0 with
  | some c =>
      skip
      pure (acc.push c)
  | none => pure acc

/-- Steps over a line break, appending it to the text: CR, LF, CR LF and NEL become
LF, the Unicode separators stay as they are. -/
def readLine (acc : String) : ScanM String := do
  let s ← get
  match s.peek 0 with
  | some c =>
      if c == '\r' || c == '\n' || c.toNat == 0x85 then
        skipLine
        pure (acc.push '\n')
      else if isBreak c then
        skipLine
        pure (acc.push c)
      else pure acc
  | none => pure acc

/-- Stops with an error at the cursor, in a context that began at `contextMark`. -/
def failIn {α : Type} (context : String) (contextMark : Mark) (problem : String) : ScanM α := do
  let s ← get
  throw { problem := problem, mark := s.mark, context := some (context, contextMark) }

/-- Stops with an error at the cursor, without context. -/
def failAtCursor {α : Type} (problem : String) : ScanM α := do
  let s ← get
  throw { problem := problem, mark := s.mark }

/-- A bound on the steps of any loop over the rest of the text. -/
def stepsLeft : ScanM Nat := do
  let s ← get
  pure (s.input.size - s.pos + 2)

/-! ## The token queue -/

/-- Appends a token. -/
def enqueue (kind : TokenKind) (start stop : Mark) : ScanM Unit :=
  modify fun s => { s with queue := s.queue.push ⟨kind, start, stop⟩ }

/-- Inserts a token at a position of the queue. -/
def insertToken (at_ : Nat) (t : Token) : ScanM Unit :=
  modify fun s =>
    let i := min at_ s.queue.size
    { s with queue := (s.queue.toList.take i ++ [t] ++ s.queue.toList.drop i).toArray }

/-! ## Simple keys and indentation -/

/-- The error for a simple key that had to be completed by a `:`. -/
def requiredKeyError {α : Type} (k : SimpleKey) : ScanM α := do
  let s ← get
  throw { problem := "could not find expected ':'", mark := s.mark,
          context := some ("while scanning a simple key", k.mark) }

/-- Forgets possible simple keys that can no longer be completed: those on an earlier
line or more than 1024 characters back.  A required one is an error. -/
def staleSimpleKeys : ScanM Unit := do
  let s ← get
  let mut keys := []
  for k in s.keys do
    if k.possible && (k.mark.line < s.mark.line || k.mark.index + 1024 < s.mark.index) then
      if k.required then requiredKeyError k
      keys := keys ++ [{ k with possible := false }]
    else keys := keys ++ [k]
  modify fun s => { s with keys := keys }

/-- Forgets the simple key of the current flow level; a required one is an error. -/
def removeSimpleKey : ScanM Unit := do
  let s ← get
  match s.keys with
  | k :: rest =>
      if k.possible && k.required then requiredKeyError k
      set { s with keys := { k with possible := false } :: rest }
  | [] => pure ()

/-- Remembers that a simple key may start at the cursor. -/
def saveSimpleKey : ScanM Unit := do
  let s ← get
  let required := s.flowLevel == 0 && s.indent == (s.mark.column : Int)
  if s.keyAllowed then
    let k : SimpleKey := ⟨true, required, s.taken + s.queue.size, s.mark⟩
    removeSimpleKey
    modify fun s => match s.keys with
      | _ :: rest => { s with keys := k :: rest }
      | [] => { s with keys := [k] }

/-- Enters a flow collection. -/
def increaseFlowLevel : ScanM Unit :=
  modify fun s => { s with keys := ⟨false, false, 0, {}⟩ :: s.keys, flowLevel := s.flowLevel + 1 }

/-- Leaves a flow collection. -/
def decreaseFlowLevel : ScanM Unit :=
  modify fun s =>
    if s.flowLevel > 0 then { s with flowLevel := s.flowLevel - 1, keys := s.keys.drop 1 }
    else s

/-- In block context, opens a deeper indentation level at `column`, with a token that
starts the block collection, appended or inserted at token number `number`. -/
def rollIndent (column : Nat) (number : Option Nat) (kind : TokenKind) (mark : Mark) :
    ScanM Unit := do
  let s ← get
  if s.flowLevel == 0 && s.indent < (column : Int) then
    set { s with indents := s.indent :: s.indents, indent := column }
    match number with
    | some n => insertToken (n - s.taken) ⟨kind, mark, mark⟩
    | none => enqueue kind mark mark

/-- In block context, closes indentation levels deeper than `column`, one `BLOCK-END`
each. -/
def unrollIndent (column : Int) : ScanM Unit := do
  let s ← get
  if s.flowLevel == 0 then
    let mut st := s
    for _ in List.range (s.indents.length + 1) do
      if st.indent > column then
        st := { st with queue := st.queue.push ⟨.blockEnd, st.mark, st.mark⟩,
                        indent := st.indents.headD (-1), indents := st.indents.drop 1 }
    set st

/-! ## White space and comments -/

/-- Skips white space, comments and line breaks up to the next token.  Tabs count as
white space only in flow context or where no simple key may start. -/
def scanToNextToken : ScanM Unit := do
  for _ in List.range ((← stepsLeft) + 1) do
    let s ← get
    if s.mark.column == 0 && s.peek 0 == some (Char.ofNat 0xFEFF) then skip
    let steps ← stepsLeft
    for _ in List.range steps do
      let s ← get
      if s.isAt 0 ' ' || ((s.flowLevel > 0 || !s.keyAllowed) && s.isAt 0 '\t') then skip
    let s ← get
    if s.isAt 0 '#' then
      for _ in List.range steps do
        let s ← get
        if !s.breakzAt 0 then skip
    let s ← get
    if s.breakAt 0 then
      skipLine
      if s.flowLevel == 0 then modify fun s => { s with keyAllowed := true }
    else return

/-! ## Directives -/

/-- Reads the name of a directive after its `%`. -/
def scanDirectiveName (start : Mark) : ScanM String := do
  let mut name := ""
  for _ in List.range (← stepsLeft) do
    let s ← get
    match s.peek 0 with
    | some c => if isWordChar c then name ← readChar name
    | none => pure ()
  let s ← get
  if name.isEmpty then failIn "while scanning a directive" start "could not find expected directive name"
  if !s.blankzAt 0 then failIn "while scanning a directive" start "found unexpected non-alphabetical character"
  pure name

/-- Skips blanks on the line. -/
def skipBlanks : ScanM Unit := do
  for _ in List.range (← stepsLeft) do
    let s ← get
    if s.blankAt 0 then skip

/-- Reads one number of a version directive. -/
def scanVersionNumber (start : Mark) : ScanM Nat := do
  let mut value := 0
  let mut length := 0
  for _ in List.range (← stepsLeft) do
    let s ← get
    match s.peek 0 with
    | some c =>
        if c.isDigit && length < 9 then
          value := value * 10 + (c.toNat - 48)
          length := length + 1
          skip
        else if c.isDigit then
          failIn "while scanning a %YAML directive" start "found extremely long version number"
    | none => pure ()
  if length == 0 then failIn "while scanning a %YAML directive" start "did not find expected version number"
  pure value

/-- Reads a tag handle: `!`, then word characters, then an optional `!`. -/
def scanTagHandle (directive : Bool) (start : Mark) : ScanM String := do
  let s ← get
  if !s.isAt 0 '!' then
    failIn (if directive then "while scanning a tag directive" else "while scanning a tag") start
      "did not find expected '!'"
  let mut handle ← readChar ""
  for _ in List.range (← stepsLeft) do
    let s ← get
    match s.peek 0 with
    | some c => if isWordChar c then handle ← readChar handle
    | none => pure ()
  let s ← get
  if s.isAt 0 '!' then handle ← readChar handle
  else if directive && handle != "!" then
    failIn "while parsing a tag directive" start "did not find expected '!'"
  pure handle

/-- The value of a hexadecimal digit. -/
def hexValue (c : Char) : Option Nat :=
  if c.isDigit then some (c.toNat - 48)
  else if 'a' ≤ c && c ≤ 'f' then some (c.toNat - 87)
  else if 'A' ≤ c && c ≤ 'F' then some (c.toNat - 55)
  else none

/-- Reads `%XX` escapes in a tag URI, which together must spell one UTF-8 character. -/
def scanUriEscapes (directive : Bool) (start : Mark) : ScanM String := do
  let context := if directive then "while parsing a %TAG directive" else "while parsing a tag"
  let mut bytes : List UInt8 := []
  let mut width := 0
  for _ in List.range 4 do
    let s ← get
    if !(s.isAt 0 '%' && ((s.peek 1).bind hexValue).isSome && ((s.peek 2).bind hexValue).isSome) then
      failIn context start "did not find URI escaped octet"
    let octet := (((s.peek 1).bind hexValue).getD 0) * 16 + (((s.peek 2).bind hexValue).getD 0)
    if bytes.isEmpty then
      width :=
        if octet &&& 0x80 == 0 then 1
        else if octet &&& 0xE0 == 0xC0 then 2
        else if octet &&& 0xF0 == 0xE0 then 3
        else if octet &&& 0xF8 == 0xF0 then 4
        else 0
      if width == 0 then failIn context start "found an incorrect leading UTF-8 octet"
    else if octet &&& 0xC0 != 0x80 then
      failIn context start "found an incorrect trailing UTF-8 octet"
    bytes := bytes ++ [octet.toUInt8]
    skip; skip; skip
    width := width - 1
    if width == 0 then break
  pure ((String.fromUTF8? (ByteArray.mk bytes.toArray)).getD "")

/-- Reads a tag URI, after the given head (whose `!` is dropped). -/
def scanTagUri (verbatim directive : Bool) (head : String) (start : Mark) : ScanM String := do
  let mut uri := String.ofList (head.toList.drop 1)
  let mut length := head.length
  for _ in List.range (← stepsLeft) do
    let s ← get
    match s.peek 0 with
    | some c =>
        if isUriChar verbatim c then
          if c == '%' then uri := uri ++ (← scanUriEscapes directive start)
          else uri ← readChar uri
          length := length + 1
    | none => pure ()
  if length == 0 then
    failIn (if directive then "while parsing a %TAG directive" else "while parsing a tag") start
      "did not find expected tag URI"
  pure uri

/-- Reads a directive line: `%YAML` with its version, `%TAG` with handle and prefix. -/
def scanDirective : ScanM Token := do
  let start := (← get).mark
  skip
  let name ← scanDirectiveName start
  let kind ← if name == "YAML" then do
      skipBlanks
      let major ← scanVersionNumber start
      let s ← get
      if !s.isAt 0 '.' then
        failIn "while scanning a %YAML directive" start "did not find expected digit or '.' character"
      skip
      let minor ← scanVersionNumber start
      pure (TokenKind.versionDirective major minor)
    else if name == "TAG" then do
      skipBlanks
      let handle ← scanTagHandle true start
      let s ← get
      if !s.blankAt 0 then
        failIn "while scanning a %TAG directive" start "did not find expected whitespace"
      skipBlanks
      let pre ← scanTagUri true true "" start
      let s ← get
      if !s.blankzAt 0 then
        failIn "while scanning a %TAG directive" start "did not find expected whitespace or line break"
      pure (TokenKind.tagDirective handle pre)
    else failIn "while scanning a directive" start "found unknown directive name"
  let stop := (← get).mark
  skipBlanks
  let s ← get
  if s.isAt 0 '#' then
    for _ in List.range (← stepsLeft) do
      let s ← get
      if !s.breakzAt 0 then skip
  let s ← get
  if !s.breakzAt 0 then
    failIn "while scanning a directive" start "did not find expected comment or line break"
  if s.breakAt 0 then skipLine
  pure ⟨kind, start, stop⟩

/-! ## Anchors and tags -/

/-- Reads an anchor (`&name`) or an alias (`*name`). -/
def scanAnchor (isAlias : Bool) : ScanM Token := do
  let start := (← get).mark
  skip
  let mut name := ""
  for _ in List.range (← stepsLeft) do
    let s ← get
    match s.peek 0 with
    | some c => if isWordChar c then name ← readChar name
    | none => pure ()
  let s ← get
  let ends := s.blankzAt 0 || ['?', ':', ',', ']', '}', '%', '@', '`'].any (fun c => s.isAt 0 c)
  if name.isEmpty || !ends then
    failIn (if isAlias then "while scanning an alias" else "while scanning an anchor") start
      "did not find expected alphabetic or numeric character"
  pure ⟨if isAlias then .alias name else .anchor name, start, s.mark⟩

/-- Reads a tag: verbatim `!<uri>`, `!handle!suffix`, `!suffix` or `!`. -/
def scanTag : ScanM Token := do
  let start := (← get).mark
  let s ← get
  let (handle, suffix) ← if s.isAt 1 '<' then do
      skip; skip
      let suffix ← scanTagUri true false "" start
      let s ← get
      if !s.isAt 0 '>' then failIn "while scanning a tag" start "did not find the expected '>'"
      skip
      pure ("", suffix)
    else do
      let handle ← scanTagHandle false start
      if handle.length > 1 && handle.startsWith "!" && handle.endsWith "!" then
        let suffix ← scanTagUri false false "" start
        pure (handle, suffix)
      else
        let suffix ← scanTagUri false false handle start
        if suffix.isEmpty then pure ("", "!") else pure ("!", suffix)
  let s ← get
  if !s.blankzAt 0 then
    if s.flowLevel == 0 || !s.isAt 0 ',' then
      failIn "while scanning a tag" start "did not find expected whitespace or line break"
  pure ⟨.tag handle suffix, start, s.mark⟩

/-! ## Block scalars -/

/-- Skips the indentation of the lines of a block scalar and collects the empty lines
before the next content line.  Without an explicit indentation, the indentation is
the deepest one among the leading empty lines, at least one more than the enclosing
level. -/
def scanBlockBreaks (indent : Nat) (start : Mark) : ScanM (Nat × String × Mark) := do
  let mut maxIndent := 0
  let mut breaks := ""
  let mut stop := (← get).mark
  for _ in List.range ((← stepsLeft) + 1) do
    for _ in List.range ((← stepsLeft) + 1) do
      let s ← get
      if (indent == 0 || s.mark.column < indent) && s.isAt 0 ' ' then skip
    let s ← get
    if s.mark.column > maxIndent then maxIndent := s.mark.column
    if (indent == 0 || s.mark.column < indent) && s.isAt 0 '\t' then
      failIn "while scanning a block scalar" start
        "found a tab character where an indentation space is expected"
    if !s.breakAt 0 then break
    breaks ← readLine breaks
    stop := (← get).mark
  let s ← get
  let indent :=
    if indent != 0 then indent
    else max 1 (max maxIndent ((s.indent + 1).toNat))
  pure (indent, breaks, stop)

/-- Reads a literal (`|`) or folded (`>`) block scalar with its header. -/
def scanBlockScalar (literal : Bool) : ScanM Token := do
  let start := (← get).mark
  skip
  let mut chomping : Int := 0
  let mut increment := 0
  let s ← get
  if s.isAt 0 '+' || s.isAt 0 '-' then
    chomping := if s.isAt 0 '+' then 1 else -1
    skip
    let s ← get
    match s.peek 0 with
    | some c =>
        if c.isDigit then
          if c == '0' then
            failIn "while scanning a block scalar" start "found an indentation indicator equal to 0"
          increment := c.toNat - 48
          skip
    | none => pure ()
  else
    match s.peek 0 with
    | some c =>
        if c.isDigit then
          if c == '0' then
            failIn "while scanning a block scalar" start "found an indentation indicator equal to 0"
          increment := c.toNat - 48
          skip
          let s ← get
          if s.isAt 0 '+' || s.isAt 0 '-' then
            chomping := if s.isAt 0 '+' then 1 else -1
            skip
    | none => pure ()
  skipBlanks
  let s ← get
  if s.isAt 0 '#' then
    for _ in List.range (← stepsLeft) do
      let s ← get
      if !s.breakzAt 0 then skip
  let s ← get
  if !s.breakzAt 0 then
    failIn "while scanning a block scalar" start "did not find expected comment or line break"
  if s.breakAt 0 then skipLine
  let s ← get
  let given : Nat :=
    if increment != 0 then (if s.indent ≥ 0 then s.indent.toNat + increment else increment)
    else 0
  let (indent, breaks0, stop0) ← scanBlockBreaks given start
  let mut text := ""
  let mut leadingBreak := ""
  let mut trailingBreaks := breaks0
  let mut leadingBlank := false
  let mut stop := stop0
  for _ in List.range ((← stepsLeft) + 1) do
    let s ← get
    if !(s.mark.column == indent && !s.endsAt 0) then break
    let trailingBlank := s.blankAt 0
    if !literal && leadingBreak.startsWith "\n" && !leadingBlank && !trailingBlank then
      if trailingBreaks.isEmpty then text := text.push ' '
      leadingBreak := ""
    else
      text := text ++ leadingBreak
      leadingBreak := ""
    text := text ++ trailingBreaks
    trailingBreaks := ""
    leadingBlank := s.blankAt 0
    for _ in List.range ((← stepsLeft) + 1) do
      let s ← get
      if s.breakzAt 0 then break
      text ← readChar text
    leadingBreak ← readLine ""
    let (_, breaks, stop') ← scanBlockBreaks indent start
    trailingBreaks := breaks
    stop := stop'
  if chomping != -1 then text := text ++ leadingBreak
  if chomping == 1 then text := text ++ trailingBreaks
  pure ⟨.scalar text (if literal then .literal else .folded), start, stop⟩

/-! ## Flow scalars -/

/-- The character of a one-letter escape in a double-quoted scalar. -/
def simpleEscape (c : Char) : Option Char :=
  match c with
  | '0' => some (Char.ofNat 0)
  | 'a' => some (Char.ofNat 7)
  | 'b' => some (Char.ofNat 8)
  | 't' => some '\t'
  | '\t' => some '\t'
  | 'n' => some '\n'
  | 'v' => some (Char.ofNat 11)
  | 'f' => some (Char.ofNat 12)
  | 'r' => some '\r'
  | 'e' => some (Char.ofNat 27)
  | ' ' => some ' '
  | '"' => some '"'
  | '/' => some '/'
  | '\'' => some '\''
  | '\\' => some '\\'
  | 'N' => some (Char.ofNat 0x85)
  | '_' => some (Char.ofNat 0xA0)
  | 'L' => some (Char.ofNat 0x2028)
  | 'P' => some (Char.ofNat 0x2029)
  | _ => none

/-- Folds the white space between two pieces of a flow or plain scalar: a single line
break becomes a space, more breaks stay as breaks, spaces within a line stay. -/
def foldBlanks (text leadingBreak trailingBreaks whitespace : String) (leadingBlanks : Bool) :
    String :=
  if leadingBlanks then
    if leadingBreak.startsWith "\n" then
      if trailingBreaks.isEmpty then text.push ' ' else text ++ trailingBreaks
    else text ++ leadingBreak ++ trailingBreaks
  else text ++ whitespace

/-- Reads a single- or double-quoted scalar. -/
def scanFlowScalar (single : Bool) : ScanM Token := do
  let start := (← get).mark
  skip
  let quote := if single then '\'' else '"'
  let mut text := ""
  for _ in List.range ((← stepsLeft) + 1) do
    let s ← get
    if s.atDocumentMarker then
      failIn "while scanning a quoted scalar" start "found unexpected document indicator"
    if s.endsAt 0 then
      failIn "while scanning a quoted scalar" start "found unexpected end of stream"
    let mut leadingBlanks := false
    for _ in List.range ((← stepsLeft) + 1) do
      let s ← get
      if s.blankzAt 0 then break
      if single && s.isAt 0 '\'' && s.isAt 1 '\'' then
        text := text.push '\''
        skip; skip
      else if s.isAt 0 quote then break
      else if !single && s.isAt 0 '\\' && s.breakAt 1 then
        skip
        skipLine
        leadingBlanks := true
        break
      else if !single && s.isAt 0 '\\' then
        let e := s.peek 1
        let codeLength :=
          if e == some 'x' then 2 else if e == some 'u' then 4 else if e == some 'U' then 8 else 0
        if codeLength == 0 then
          match e.bind simpleEscape with
          | some c => text := text.push c
          | none => failIn "while parsing a quoted scalar" start "found unknown escape character"
        skip; skip
        if codeLength > 0 then
          let s ← get
          let digits := (List.range codeLength).map fun k => (s.peek k).bind hexValue
          if digits.any Option.isNone then
            failIn "while parsing a quoted scalar" start "did not find expected hexdecimal number"
          let value := digits.foldl (fun acc d => acc * 16 + d.getD 0) 0
          if (0xD800 ≤ value && value ≤ 0xDFFF) || value > 0x10FFFF then
            failIn "while parsing a quoted scalar" start "found invalid Unicode character escape code"
          text := text.push (Char.ofNat value)
          for _ in List.range codeLength do skip
      else text ← readChar text
    let s ← get
    if s.isAt 0 quote then break
    let mut whitespace := ""
    let mut leadingBreak := ""
    let mut trailingBreaks := ""
    for _ in List.range ((← stepsLeft) + 1) do
      let s ← get
      if s.blankAt 0 then
        if !leadingBlanks then whitespace ← readChar whitespace else skip
      else if s.breakAt 0 then
        if !leadingBlanks then
          whitespace := ""
          leadingBreak ← readLine leadingBreak
          leadingBlanks := true
        else trailingBreaks ← readLine trailingBreaks
      else break
    text := foldBlanks text leadingBreak trailingBreaks whitespace leadingBlanks
  skip
  let stop := (← get).mark
  pure ⟨.scalar text (if single then .singleQuoted else .doubleQuoted), start, stop⟩

/-! ## Plain scalars -/

/-- Reads a plain scalar: it ends at `: `, at ` #`, at a flow indicator in flow
context, at a document marker, or at a line indented no deeper than the enclosing
block. -/
def scanPlainScalar : ScanM Token := do
  let s0 ← get
  let indent : Int := s0.indent + 1
  let start := s0.mark
  let mut stop := start
  let mut text := ""
  let mut leadingBlanks := false
  let mut whitespace := ""
  let mut leadingBreak := ""
  let mut trailingBreaks := ""
  for _ in List.range ((← stepsLeft) + 1) do
    let s ← get
    if s.atDocumentMarker then break
    if s.isAt 0 '#' then break
    for _ in List.range ((← stepsLeft) + 1) do
      let s ← get
      if s.blankzAt 0 then break
      if s.flowLevel > 0 && s.isAt 0 ':' && [',', '?', '[', ']', '{', '}'].any (fun c => s.isAt 1 c) then break
      if (s.isAt 0 ':' && s.blankzAt 1) ||
          (s.flowLevel > 0 && [',', '[', ']', '{', '}'].any (fun c => s.isAt 0 c)) then break
      if leadingBlanks || !whitespace.isEmpty then
        text := foldBlanks text leadingBreak trailingBreaks whitespace leadingBlanks
        leadingBreak := ""
        trailingBreaks := ""
        whitespace := ""
        leadingBlanks := false
      text ← readChar text
      stop := (← get).mark
    let s ← get
    if !(s.blankAt 0 || s.breakAt 0) then break
    for _ in List.range ((← stepsLeft) + 1) do
      let s ← get
      if s.blankAt 0 then
        if leadingBlanks && (s.mark.column : Int) < indent && s.isAt 0 '\t' then
          failIn "while scanning a plain scalar" start "found a tab character that violates indentation"
        if !leadingBlanks then whitespace ← readChar whitespace else skip
      else if s.breakAt 0 then
        if !leadingBlanks then
          whitespace := ""
          leadingBreak ← readLine leadingBreak
          leadingBlanks := true
        else trailingBreaks ← readLine trailingBreaks
      else break
    let s ← get
    if s.flowLevel == 0 && (s.mark.column : Int) < indent then break
  if leadingBlanks then modify fun s => { s with keyAllowed := true }
  pure ⟨.scalar text .plain, start, stop⟩

/-! ## Fetching tokens -/

/-- Starts the stream. -/
def fetchStreamStart : ScanM Unit := do
  modify fun s => { s with indent := -1, keys := [⟨false, false, 0, {}⟩], keyAllowed := true,
                           started := true }
  let m := (← get).mark
  enqueue .streamStart m m

/-- Ends the stream: the mark moves to a fresh line, every block is closed. -/
def fetchStreamEnd : ScanM Unit := do
  modify fun s =>
    if s.mark.column != 0 then
      { s with mark := { s.mark with column := 0, line := s.mark.line + 1 } }
    else s
  unrollIndent (-1)
  removeSimpleKey
  modify fun s => { s with keyAllowed := false, ended := true }
  let m := (← get).mark
  enqueue .streamEnd m m

/-- A directive line. -/
def fetchDirective : ScanM Unit := do
  unrollIndent (-1)
  removeSimpleKey
  modify fun s => { s with keyAllowed := false }
  let t ← scanDirective
  modify fun s => { s with queue := s.queue.push t }

/-- A document start or end marker. -/
def fetchDocumentIndicator (kind : TokenKind) : ScanM Unit := do
  unrollIndent (-1)
  removeSimpleKey
  modify fun s => { s with keyAllowed := false }
  let start := (← get).mark
  skip; skip; skip
  enqueue kind start (← get).mark

/-- A one-character indicator token. -/
def fetchIndicator (kind : TokenKind) : ScanM Unit := do
  let start := (← get).mark
  skip
  enqueue kind start (← get).mark

/-- `[` or `{`. -/
def fetchFlowCollectionStart (kind : TokenKind) : ScanM Unit := do
  saveSimpleKey
  increaseFlowLevel
  modify fun s => { s with keyAllowed := true }
  fetchIndicator kind

/-- `]` or `}`. -/
def fetchFlowCollectionEnd (kind : TokenKind) : ScanM Unit := do
  removeSimpleKey
  decreaseFlowLevel
  modify fun s => { s with keyAllowed := false }
  fetchIndicator kind

/-- `,` in flow context. -/
def fetchFlowEntry : ScanM Unit := do
  removeSimpleKey
  modify fun s => { s with keyAllowed := true }
  fetchIndicator .flowEntry

/-- `-` starting a block sequence entry. -/
def fetchBlockEntry : ScanM Unit := do
  let s ← get
  if s.flowLevel == 0 then
    if !s.keyAllowed then failAtCursor "block sequence entries are not allowed in this context"
    rollIndent s.mark.column none .blockSequenceStart s.mark
  removeSimpleKey
  modify fun s => { s with keyAllowed := true }
  fetchIndicator .blockEntry

/-- `?` starting a complex key. -/
def fetchKey : ScanM Unit := do
  let s ← get
  if s.flowLevel == 0 then
    if !s.keyAllowed then failAtCursor "mapping keys are not allowed in this context"
    rollIndent s.mark.column none .blockMappingStart s.mark
  removeSimpleKey
  modify fun s => { s with keyAllowed := s.flowLevel == 0 }
  fetchIndicator .key

/-- `:` ending a key: a pending simple key becomes a `KEY` token where it started. -/
def fetchValue : ScanM Unit := do
  let s ← get
  match s.keys with
  | k :: rest =>
      if k.possible then
        insertToken (k.tokenNumber - s.taken) ⟨.key, k.mark, k.mark⟩
        rollIndent k.mark.column (some k.tokenNumber) .blockMappingStart k.mark
        modify fun s => { s with keys := { k with possible := false } :: rest, keyAllowed := false }
      else
        if s.flowLevel == 0 then
          if !s.keyAllowed then failAtCursor "mapping values are not allowed in this context"
          rollIndent s.mark.column none .blockMappingStart s.mark
        modify fun s => { s with keyAllowed := s.flowLevel == 0 }
  | [] => pure ()
  fetchIndicator .value

/-- Anchors and aliases. -/
def fetchAnchor (isAlias : Bool) : ScanM Unit := do
  saveSimpleKey
  modify fun s => { s with keyAllowed := false }
  let t ← scanAnchor isAlias
  modify fun s => { s with queue := s.queue.push t }

/-- Tags. -/
def fetchTag : ScanM Unit := do
  saveSimpleKey
  modify fun s => { s with keyAllowed := false }
  let t ← scanTag
  modify fun s => { s with queue := s.queue.push t }

/-- Block scalars. -/
def fetchBlockScalar (literal : Bool) : ScanM Unit := do
  removeSimpleKey
  modify fun s => { s with keyAllowed := true }
  let t ← scanBlockScalar literal
  modify fun s => { s with queue := s.queue.push t }

/-- Quoted scalars. -/
def fetchFlowScalar (single : Bool) : ScanM Unit := do
  saveSimpleKey
  modify fun s => { s with keyAllowed := false }
  let t ← scanFlowScalar single
  modify fun s => { s with queue := s.queue.push t }

/-- Plain scalars. -/
def fetchPlainScalar : ScanM Unit := do
  saveSimpleKey
  modify fun s => { s with keyAllowed := false }
  let t ← scanPlainScalar
  modify fun s => { s with queue := s.queue.push t }

/-- The characters with a meaning of their own at the start of a token. -/
def indicatorChars : List Char :=
  ['-', '?', ':', ',', '[', ']', '{', '}', '#', '&', '*', '!', '|', '>', '\'', '"', '%', '@', '`']

/-- Whether a plain scalar can start at the cursor. -/
def Scanner.startsPlain (s : Scanner) : Bool :=
  let indicator := indicatorChars.any fun c => s.isAt 0 c
  !(s.blankzAt 0 || indicator) ||
    (s.isAt 0 '-' && !s.blankAt 1) ||
    (s.flowLevel == 0 && (s.isAt 0 '?' || s.isAt 0 ':') && !s.blankzAt 1)

/-- Scans the next token. -/
def fetchNextToken : ScanM Unit := do
  if !(← get).started then
    fetchStreamStart
    return
  scanToNextToken
  staleSimpleKeys
  unrollIndent ((← get).mark.column)
  let s ← get
  if s.endsAt 0 then fetchStreamEnd
  else if s.mark.column == 0 && s.isAt 0 '%' then fetchDirective
  else if s.mark.column == 0 && s.isAt 0 '-' && s.isAt 1 '-' && s.isAt 2 '-' && s.blankzAt 3 then
    fetchDocumentIndicator .documentStart
  else if s.mark.column == 0 && s.isAt 0 '.' && s.isAt 1 '.' && s.isAt 2 '.' && s.blankzAt 3 then
    fetchDocumentIndicator .documentEnd
  else if s.isAt 0 '[' then fetchFlowCollectionStart .flowSequenceStart
  else if s.isAt 0 '{' then fetchFlowCollectionStart .flowMappingStart
  else if s.isAt 0 ']' then fetchFlowCollectionEnd .flowSequenceEnd
  else if s.isAt 0 '}' then fetchFlowCollectionEnd .flowMappingEnd
  else if s.isAt 0 ',' then fetchFlowEntry
  else if s.isAt 0 '-' && s.blankzAt 1 then fetchBlockEntry
  else if s.isAt 0 '?' && (s.flowLevel > 0 || s.blankzAt 1) then fetchKey
  else if s.isAt 0 ':' && (s.flowLevel > 0 || s.blankzAt 1) then fetchValue
  else if s.isAt 0 '*' then fetchAnchor true
  else if s.isAt 0 '&' then fetchAnchor false
  else if s.isAt 0 '!' then fetchTag
  else if s.isAt 0 '|' && s.flowLevel == 0 then fetchBlockScalar true
  else if s.isAt 0 '>' && s.flowLevel == 0 then fetchBlockScalar false
  else if s.isAt 0 '\'' then fetchFlowScalar true
  else if s.isAt 0 '"' then fetchFlowScalar false
  else if s.startsPlain then fetchPlainScalar
  else failIn "while scanning for the next token" s.mark "found character that cannot start any token"

/-- Whether a pending simple key could still insert a token at the head of the queue. -/
def Scanner.keyPendsAtHead (s : Scanner) : Bool :=
  s.keys.any fun k => k.possible && k.tokenNumber == s.taken

/-- Scans until the head token is final: the queue is not empty, and no pending simple
key could still insert a token at its head.  Keys that went stale are dropped first. -/
def fetchMoreTokens : ScanM Unit := do
  for _ in List.range ((← stepsLeft) * 4 + 8) do
    let s ← get
    let needed ← if s.queue.isEmpty then pure true else do
      staleSimpleKeys
      pure (← get).keyPendsAtHead
    if !needed then return
    fetchNextToken

/-- The next token, not taken.  Once a token is known to be final, looking at it again
scans nothing. -/
def peekToken : ScanM Token := do
  if !(← get).available then
    fetchMoreTokens
    modify fun s => { s with available := true }
  let s ← get
  match s.queue[0]? with
  | some t => pure t
  | none => pure ⟨.streamEnd, s.mark, s.mark⟩

/-- Takes the head token. -/
def takeToken : ScanM Unit :=
  modify fun s =>
    { s with
      queue := s.queue.extract 1 s.queue.size,
      taken := s.taken + 1,
      available := false }

/-! ## Characters the reader refuses -/

/-- Whether a character may appear in YAML text: tab, line feed, carriage return, the
printable ASCII range, NEL, and the printable ranges above. -/
def isAllowedChar (c : Char) : Bool :=
  let n := c.toNat
  n == 0x09 || n == 0x0A || n == 0x0D || (0x20 ≤ n && n ≤ 0x7E) || n == 0x85 ||
    (0xA0 ≤ n && n ≤ 0xD7FF) || (0xE000 ≤ n && n ≤ 0xFFFD) || (0x10000 ≤ n && n ≤ 0x10FFFF)

/-- The error for the first character the reader refuses, at its byte offset. -/
def readerCheck (text : String) : Option SyntaxError :=
  let rec go : List Char → Nat → Option SyntaxError
    | [], _ => none
    | c :: rest, offset =>
        if isAllowedChar c then go rest (offset + c.utf8Size)
        else some { problem := "control characters are not allowed", offset := offset }
  go text.toList 0

/-- A scanner at the start of a text (a byte order mark at the start is dropped). -/
def Scanner.ofText (text : String) : Scanner :=
  let cs := text.toList
  let cs := match cs with
    | c :: rest => if c.toNat == 0xFEFF then rest else cs
    | [] => []
  { input := cs.toArray }

end BuildWorker.Yaml
