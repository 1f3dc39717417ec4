import BuildWorker.Yaml.Scanner
/-!
# Reading YAML: events

The second stage turns tokens into events: the start and end of the stream, of each
document, of each sequence and mapping, and scalars and aliases with their anchors
and tags.  It is a pushdown machine: the state says what may come next, and a stack
of states says where to return when a node is complete.  Each call produces exactly
one event and reads only as many tokens as it needs, so an error in the text is met
only when the events before it have been produced.

Missing nodes are filled with empty plain scalars: a key without a value, a `-` with
nothing after it, an anchor with no content.  Tags are resolved against the
document's `%TAG` directives and the two standard handles `!` and `!!`.
-/

set_option autoImplicit false

namespace BuildWorker.Yaml

/-- An event, with the parts the reader of a document needs. -/
inductive ParseEvent where
  | streamStart
  | streamEnd
  | documentStart
  | documentEnd
  | alias (name : String)
  | scalar (anchor : Option String) (tag : Option String) (text : String) (style : ScalarStyle)
  | sequenceStart (anchor : Option String) (tag : Option String)
  | sequenceEnd
  | mappingStart (anchor : Option String) (tag : Option String)
  | mappingEnd
  deriving DecidableEq, Repr, Inhabited

/-- What the machine expects next. -/
inductive ParseState where
  | streamStart
  | implicitDocumentStart
  | documentStart
  | documentContent
  | documentEnd
  | blockNode
  | blockNodeOrIndentlessSequence
  | flowNode
  | blockSequenceFirstEntry
  | blockSequenceEntry
  | indentlessSequenceEntry
  | blockMappingFirstKey
  | blockMappingKey
  | blockMappingValue
  | flowSequenceFirstEntry
  | flowSequenceEntry
  | flowSequenceEntryMappingKey
  | flowSequenceEntryMappingValue
  | flowSequenceEntryMappingEnd
  | flowMappingFirstKey
  | flowMappingKey
  | flowMappingValue
  | flowMappingEmptyValue
  | finished
  deriving DecidableEq, Repr, Inhabited

/-- The machine: the scanner it reads from, the state, the stack of states to return
to, the marks where open collections began, and the tag handles in force. -/
structure Parser where
  scanner : Scanner
  state : ParseState := .streamStart
  states : List ParseState := []
  marks : List Mark := []
  tagHandles : List (String × String) := []
  deriving Inhabited

/-- A parsing step. -/
abbrev ParseM := ExceptT SyntaxError (StateM Parser)

/-- The tag handles every document has. -/
def standardTagHandles : List (String × String) :=
  [("!", "!"), ("!!", "tag:yaml.org,2002:")]

/-- Runs a scanning step on the parser's scanner. -/
def liftScan {α : Type} (m : ScanM α) : ParseM α := do
  let p ← get
  let (result, scanner) := (m.run).run p.scanner
  set { p with scanner := scanner }
  match result with
  | .ok a => pure a
  | .error e => throw e

/-- The next token. -/
def peek : ParseM Token := liftScan peekToken

/-- Takes the next token. -/
def take : ParseM Unit := liftScan takeToken

/-- Stops with an error at a mark. -/
def failAt {α : Type} (problem : String) (mark : Mark) : ParseM α :=
  throw { problem := problem, mark := mark }

/-- Stops with an error at a mark, in a context that began at another. -/
def failAtIn {α : Type} (context : String) (contextMark : Mark) (problem : String) (mark : Mark) :
    ParseM α :=
  throw { problem := problem, mark := mark, context := some (context, contextMark) }

/-- Sets the next state. -/
def goTo (state : ParseState) : ParseM Unit := modify fun p => { p with state := state }

/-- Pushes a state to return to. -/
def pushState (state : ParseState) : ParseM Unit :=
  modify fun p => { p with states := state :: p.states }

/-- Returns to the state on top of the stack. -/
def popState : ParseM Unit :=
  modify fun p => { p with state := p.states.headD .finished, states := p.states.drop 1 }

/-- Remembers where a collection began. -/
def pushMark (m : Mark) : ParseM Unit := modify fun p => { p with marks := m :: p.marks }

/-- Forgets where the innermost collection began, and tells it. -/
def popMark : ParseM Mark := do
  let p ← get
  set { p with marks := p.marks.drop 1 }
  pure (p.marks.headD {})

/-- An empty plain scalar standing for a missing node. -/
def emptyScalar (mark : Mark) : ParseEvent × Mark := (.scalar none none "" .plain, mark)

/-- Adds a tag handle; a handle already present is an error unless duplicates are
allowed, in which case the first stays. -/
def addTagHandle (handle pre : String) (allowDuplicates : Bool) (mark : Mark) : ParseM Unit := do
  let p ← get
  if p.tagHandles.any (·.1 == handle) then
    if allowDuplicates then return
    failAt "found duplicate %TAG directive" mark
  set { p with tagHandles := p.tagHandles ++ [(handle, pre)] }

/-- Reads the directives before a document and puts the standard tag handles after
them. -/
def processDirectives : ParseM Unit := do
  let mut sawVersion := false
  let steps := (← get).scanner.input.size + 2
  for _ in List.range steps do
    let t ← peek
    match t.kind with
    | .versionDirective major minor =>
        if sawVersion then failAt "found duplicate %YAML directive" t.start
        if major != 1 || (minor != 1 && minor != 2) then
          failAt "found incompatible YAML document" t.start
        sawVersion := true
        take
    | .tagDirective handle pre =>
        addTagHandle handle pre false t.start
        take
    | _ => break
  let t ← peek
  for (handle, pre) in standardTagHandles do
    addTagHandle handle pre true t.start

/-- The start of a document, or the end of the stream.  Outside an explicit
document (`implicit`), content starts a document with no `---`. -/
def parseDocumentStart (implicit : Bool) : ParseM (ParseEvent × Mark) := do
  let mut t ← peek
  if !implicit then
    for _ in List.range ((← get).scanner.input.size + 2) do
      if t.kind == .documentEnd then
        take
        t ← peek
  let isDirective := match t.kind with
    | .versionDirective .. | .tagDirective .. => true
    | _ => false
  if implicit && !isDirective && t.kind != .documentStart && t.kind != .streamEnd then
    processDirectives
    pushState .documentEnd
    goTo .blockNode
    pure (.documentStart, t.start)
  else if t.kind != .streamEnd then
    let start := t.start
    processDirectives
    let marker ← peek
    if marker.kind != .documentStart then
      failAt "did not find expected <document start>" marker.start
    pushState .documentEnd
    goTo .documentContent
    take
    pure (.documentStart, start)
  else
    goTo .finished
    take
    pure (.streamEnd, t.start)

/-- Resolves a tag against the handles in force. -/
def resolveTag (handle suffix : String) (nodeMark tagMark : Mark) : ParseM String := do
  if handle.isEmpty then pure suffix
  else
    match (← get).tagHandles.find? (·.1 == handle) with
    | some (_, pre) => pure (pre ++ suffix)
    | none => failAtIn "while parsing a node" nodeMark "found undefined tag handle" tagMark

/-- A node: an alias, or content with an optional anchor and tag.  In block context
it may be a block collection; right after a mapping key (`indentless`) a `-` at the
key's own indentation starts a sequence. -/
def parseNode (block indentless : Bool) : ParseM (ParseEvent × Mark) := do
  let head ← peek
  match head.kind with
  | .alias name =>
      popState
      take
      pure (.alias name, head.start)
  | _ =>
      let start := head.start
      let mut anchor : Option String := none
      let mut tagParts : Option (String × String × Mark) := none
      let mut t := head
      match t.kind with
      | .anchor name =>
          anchor := some name
          take
          t ← peek
          match t.kind with
          | .tag h s =>
              tagParts := some (h, s, t.start)
              take
              t ← peek
          | _ => pure ()
      | .tag h s =>
          tagParts := some (h, s, t.start)
          take
          t ← peek
          match t.kind with
          | .anchor name =>
              anchor := some name
              take
              t ← peek
          | _ => pure ()
      | _ => pure ()
      let tag ← match tagParts with
        | some (h, s, m) => some <$> resolveTag h s start m
        | none => pure none
      if indentless && t.kind == .blockEntry then
        goTo .indentlessSequenceEntry
        return (.sequenceStart anchor tag, start)
      match t.kind with
      | .scalar text style =>
          popState
          take
          pure (.scalar anchor tag text style, start)
      | .flowSequenceStart =>
          goTo .flowSequenceFirstEntry
          pure (.sequenceStart anchor tag, start)
      | .flowMappingStart =>
          goTo .flowMappingFirstKey
          pure (.mappingStart anchor tag, start)
      | .blockSequenceStart =>
          if block then
            goTo .blockSequenceFirstEntry
            pure (.sequenceStart anchor tag, start)
          else
            failAtIn "while parsing a flow node" start "did not find expected node content" t.start
      | .blockMappingStart =>
          if block then
            goTo .blockMappingFirstKey
            pure (.mappingStart anchor tag, start)
          else
            failAtIn "while parsing a flow node" start "did not find expected node content" t.start
      | _ =>
          if anchor.isSome || tag.isSome then
            popState
            pure (.scalar anchor tag "" .plain, start)
          else
            failAtIn (if block then "while parsing a block node" else "while parsing a flow node")
              start "did not find expected node content" t.start

/-- The content of an explicit document, which may be empty. -/
def parseDocumentContent : ParseM (ParseEvent × Mark) := do
  let t ← peek
  match t.kind with
  | .versionDirective .. | .tagDirective .. | .documentStart | .documentEnd | .streamEnd =>
      popState
      pure (emptyScalar t.start)
  | _ => parseNode true false

/-- The end of a document, explicit (`...`) or not. -/
def parseDocumentEnd : ParseM (ParseEvent × Mark) := do
  let t ← peek
  if t.kind == .documentEnd then take
  modify fun p => { p with tagHandles := [] }
  goTo .documentStart
  pure (.documentEnd, t.start)

/-- An entry of a block sequence, or its end. -/
def parseBlockSequenceEntry (first : Bool) : ParseM (ParseEvent × Mark) := do
  if first then
    let t ← peek
    pushMark t.start
    take
  let t ← peek
  match t.kind with
  | .blockEntry =>
      let mark := t.stop
      take
      let t ← peek
      if t.kind != .blockEntry && t.kind != .blockEnd then
        pushState .blockSequenceEntry
        parseNode true false
      else
        goTo .blockSequenceEntry
        pure (emptyScalar mark)
  | .blockEnd =>
      popState
      let _ ← popMark
      take
      pure (.sequenceEnd, t.start)
  | _ =>
      let m ← popMark
      failAtIn "while parsing a block collection" m "did not find expected '-' indicator" t.start

/-- An entry of a sequence written at its key's indentation, or its end. -/
def parseIndentlessSequenceEntry : ParseM (ParseEvent × Mark) := do
  let t ← peek
  match t.kind with
  | .blockEntry =>
      let mark := t.stop
      take
      let t ← peek
      match t.kind with
      | .blockEntry | .key | .value | .blockEnd =>
          goTo .indentlessSequenceEntry
          pure (emptyScalar mark)
      | _ =>
          pushState .indentlessSequenceEntry
          parseNode true false
  | _ =>
      popState
      pure (.sequenceEnd, t.start)

/-- A key of a block mapping, or its end. -/
def parseBlockMappingKey (first : Bool) : ParseM (ParseEvent × Mark) := do
  if first then
    let t ← peek
    pushMark t.start
    take
  let t ← peek
  match t.kind with
  | .key =>
      let mark := t.stop
      take
      let t ← peek
      match t.kind with
      | .key | .value | .blockEnd =>
          goTo .blockMappingValue
          pure (emptyScalar mark)
      | _ =>
          pushState .blockMappingValue
          parseNode true true
  | .blockEnd =>
      popState
      let _ ← popMark
      take
      pure (.mappingEnd, t.start)
  | _ =>
      let m ← popMark
      failAtIn "while parsing a block mapping" m "did not find expected key" t.start

/-- A value of a block mapping, which may be missing. -/
def parseBlockMappingValue : ParseM (ParseEvent × Mark) := do
  let t ← peek
  match t.kind with
  | .value =>
      let mark := t.stop
      take
      let t ← peek
      match t.kind with
      | .key | .value | .blockEnd =>
          goTo .blockMappingKey
          pure (emptyScalar mark)
      | _ =>
          pushState .blockMappingKey
          parseNode true true
  | _ =>
      goTo .blockMappingKey
      pure (emptyScalar t.start)

/-- An entry of a flow sequence, or its end.  An entry `k: v` is a one-pair mapping. -/
def parseFlowSequenceEntry (first : Bool) : ParseM (ParseEvent × Mark) := do
  if first then
    let t ← peek
    pushMark t.start
    take
  let mut t ← peek
  if t.kind != .flowSequenceEnd then
    if !first then
      if t.kind == .flowEntry then
        take
        t ← peek
      else
        let m ← popMark
        failAtIn "while parsing a flow sequence" m "did not find expected ',' or ']'" t.start
    if t.kind == .key then
      goTo .flowSequenceEntryMappingKey
      take
      return (.mappingStart none none, t.start)
    else if t.kind != .flowSequenceEnd then
      pushState .flowSequenceEntry
      return (← parseNode false false)
  popState
  let _ ← popMark
  take
  pure (.sequenceEnd, t.start)

/-- The key of a one-pair mapping in a flow sequence. -/
def parseFlowSequenceEntryMappingKey : ParseM (ParseEvent × Mark) := do
  let t ← peek
  match t.kind with
  | .value | .flowEntry | .flowSequenceEnd =>
      goTo .flowSequenceEntryMappingValue
      pure (emptyScalar t.start)
  | _ =>
      pushState .flowSequenceEntryMappingValue
      parseNode false false

/-- The value of a one-pair mapping in a flow sequence. -/
def parseFlowSequenceEntryMappingValue : ParseM (ParseEvent × Mark) := do
  let t ← peek
  if t.kind == .value then
    take
    let t ← peek
    if t.kind != .flowEntry && t.kind != .flowSequenceEnd then
      pushState .flowSequenceEntryMappingEnd
      return (← parseNode false false)
    goTo .flowSequenceEntryMappingEnd
    return emptyScalar t.start
  goTo .flowSequenceEntryMappingEnd
  pure (emptyScalar t.start)

/-- The end of a one-pair mapping in a flow sequence. -/
def parseFlowSequenceEntryMappingEnd : ParseM (ParseEvent × Mark) := do
  let t ← peek
  goTo .flowSequenceEntry
  pure (.mappingEnd, t.start)

/-- A key of a flow mapping, or its end. -/
def parseFlowMappingKey (first : Bool) : ParseM (ParseEvent × Mark) := do
  if first then
    let t ← peek
    pushMark t.start
    take
  let mut t ← peek
  if t.kind != .flowMappingEnd then
    if !first then
      if t.kind == .flowEntry then
        take
        t ← peek
      else
        let m ← popMark
        failAtIn "while parsing a flow mapping" m "did not find expected ',' or '\x7d'" t.start
    if t.kind == .key then
      take
      let next ← peek
      match next.kind with
      | .value | .flowEntry | .flowMappingEnd =>
          goTo .flowMappingValue
          return emptyScalar next.start
      | _ =>
          pushState .flowMappingValue
          return (← parseNode false false)
    else if t.kind != .flowMappingEnd then
      pushState .flowMappingEmptyValue
      return (← parseNode false false)
  popState
  let _ ← popMark
  take
  pure (.mappingEnd, t.start)

/-- A value of a flow mapping, which may be missing (`empty` for a key with no `:`). -/
def parseFlowMappingValue (empty : Bool) : ParseM (ParseEvent × Mark) := do
  let t ← peek
  if empty then
    goTo .flowMappingKey
    return emptyScalar t.start
  if t.kind == .value then
    take
    let t ← peek
    if t.kind != .flowEntry && t.kind != .flowMappingEnd then
      pushState .flowMappingKey
      return (← parseNode false false)
    goTo .flowMappingKey
    return emptyScalar t.start
  goTo .flowMappingKey
  pure (emptyScalar t.start)

/-- The start of the stream. -/
def parseStreamStart : ParseM (ParseEvent × Mark) := do
  let t ← peek
  if t.kind != .streamStart then failAt "did not find expected <stream-start>" t.start
  goTo .implicitDocumentStart
  take
  pure (.streamStart, t.start)

/-- The next event, with the mark where it starts; `none` once the stream has ended. -/
def nextEvent : ParseM (Option (ParseEvent × Mark)) := do
  match (← get).state with
  | .streamStart => some <$> parseStreamStart
  | .implicitDocumentStart => some <$> parseDocumentStart true
  | .documentStart => some <$> parseDocumentStart false
  | .documentContent => some <$> parseDocumentContent
  | .documentEnd => some <$> parseDocumentEnd
  | .blockNode => some <$> parseNode true false
  | .blockNodeOrIndentlessSequence => some <$> parseNode true true
  | .flowNode => some <$> parseNode false false
  | .blockSequenceFirstEntry => some <$> parseBlockSequenceEntry true
  | .blockSequenceEntry => some <$> parseBlockSequenceEntry false
  | .indentlessSequenceEntry => some <$> parseIndentlessSequenceEntry
  | .blockMappingFirstKey => some <$> parseBlockMappingKey true
  | .blockMappingKey => some <$> parseBlockMappingKey false
  | .blockMappingValue => some <$> parseBlockMappingValue
  | .flowSequenceFirstEntry => some <$> parseFlowSequenceEntry true
  | .flowSequenceEntry => some <$> parseFlowSequenceEntry false
  | .flowSequenceEntryMappingKey => some <$> parseFlowSequenceEntryMappingKey
  | .flowSequenceEntryMappingValue => some <$> parseFlowSequenceEntryMappingValue
  | .flowSequenceEntryMappingEnd => some <$> parseFlowSequenceEntryMappingEnd
  | .flowMappingFirstKey => some <$> parseFlowMappingKey true
  | .flowMappingKey => some <$> parseFlowMappingKey false
  | .flowMappingValue => some <$> parseFlowMappingValue false
  | .flowMappingEmptyValue => some <$> parseFlowMappingValue true
  | .finished => pure none

/-- A parser at the start of a text. -/
def Parser.ofText (text : String) : Parser := { scanner := Scanner.ofText text }

end BuildWorker.Yaml
