import BuildWorker.Yaml.Parser
/-!
# Reading YAML: documents

A document is the list of its node events, each with the mark where it starts.
Anchors are numbered as they are defined, and an alias becomes a reference to the
number of its anchor; the number leads to the defining event only when the document
is read, so a value is read again wherever it is aliased.

Reading stops at the first error, keeping the events before it together with the
error: a reader that needs only those events never meets it.  An empty stream reads
as one document holding a single `void` event.  Only the first document is read;
the reader is told afterwards whether another one follows.
-/

set_option autoImplicit false

namespace BuildWorker.Yaml

/-- A node event of a loaded document. -/
inductive Event where
  | alias (anchor : Nat)
  | scalar (text : String) (style : ScalarStyle) (tag : Option String)
  | sequenceStart
  | sequenceEnd
  | mappingStart
  | mappingEnd
  | void
  deriving DecidableEq, Repr, Inhabited

/-- What can go wrong in reading YAML into a value. -/
inductive YamlError where
  | malformed (e : SyntaxError)
  | message (text : String) (place : Option (Mark × String))
  | endOfStream
  | moreThanOneDocument
  | repetitionLimit
  | unknownAnchor (mark : Mark)
  deriving DecidableEq, Repr, Inhabited

/-- The wording of an error: a message says where in the value it arose (its path,
unless that is the whole document) and the place in the text, unless it is the
very start. -/
def YamlError.render : YamlError → String
  | .malformed e => e.render
  | .message text none => text
  | .message text (some (mark, path)) =>
      (if path != "." then path ++ ": " else "") ++ text ++
        (if mark.isStart then "" else " at " ++ mark.render)
  | .endOfStream => "EOF while parsing a value"
  | .moreThanOneDocument =>
      "deserializing from YAML containing more than one document is not supported"
  | .repetitionLimit => "repetition limit exceeded"
  | .unknownAnchor mark => "unknown anchor" ++ (if mark.isStart then "" else " at " ++ mark.render)

/-- A loaded document: its events, where each anchor number leads (the latest
definition of a number counts), and the error that ended reading, if any. -/
structure Document where
  events : Array (Event × Mark) := #[]
  anchorEvents : List (Nat × Nat) := []
  error : Option YamlError := none
  deriving Inhabited

/-- The event an anchor number leads to. -/
def Document.anchorTarget (d : Document) (anchor : Nat) : Option Nat :=
  (d.anchorEvents.find? (·.1 == anchor)).map (·.2)

/-- The state of loading: the document so far and the anchor names defined, each with
its number.  A new name gets the count of names so far; a name defined again keeps
the count too, so it may share a number with a later name. -/
structure Loading where
  document : Document := {}
  anchors : List (String × Nat) := []
  deriving Inhabited

/-- Records an anchor defined by the next event. -/
def Loading.define (l : Loading) (anchor : Option String) : Loading :=
  match anchor with
  | none => l
  | some name =>
      let number := l.anchors.length
      { l with
        anchors := (name, number) :: l.anchors.filter (·.1 != name),
        document := { l.document with
          anchorEvents := (number, l.document.events.size) :: l.document.anchorEvents } }

/-- Appends an event. -/
def Loading.push (l : Loading) (e : Event) (mark : Mark) : Loading :=
  { l with document := { l.document with events := l.document.events.push (e, mark) } }

/-- Ends loading with an error. -/
def Loading.fail (l : Loading) (e : YamlError) : Document :=
  { l.document with error := some e }

/-- Runs one parsing step. -/
def Parser.step (p : Parser) : Except SyntaxError (Option (ParseEvent × Mark)) × Parser :=
  (nextEvent.run).run p

/-- Loads the first document: events up to its end, the first error, or the end of
the stream.  Also tells whether the stream has ended and the parser as it is left. -/
def loadFirst : Nat → Loading → Parser → Document × Bool × Parser
  | 0, l, p => (l.document, true, p)
  | fuel + 1, l, p =>
      match p.step with
      | (.error e, p) => (l.fail (.malformed e), true, p)
      | (.ok none, p) => (l.document, true, p)
      | (.ok (some (event, mark)), p) =>
          match event with
          | .streamStart | .documentStart => loadFirst fuel l p
          | .streamEnd =>
              let l := if l.document.events.isEmpty then l.push .void mark else l
              (l.document, true, p)
          | .documentEnd => (l.document, false, p)
          | .alias name =>
              match l.anchors.find? (·.1 == name) with
              | some (_, number) => loadFirst fuel (l.push (.alias number) mark) p
              | none => (l.fail (.unknownAnchor mark), true, p)
          | .scalar anchor tag text style =>
              loadFirst fuel ((l.define anchor).push (.scalar text style tag) mark) p
          | .sequenceStart anchor _ =>
              loadFirst fuel ((l.define anchor).push .sequenceStart mark) p
          | .sequenceEnd => loadFirst fuel (l.push .sequenceEnd mark) p
          | .mappingStart anchor _ =>
              loadFirst fuel ((l.define anchor).push .mappingStart mark) p
          | .mappingEnd => loadFirst fuel (l.push .mappingEnd mark) p

/-- Whether a second document follows the first: the next step starts one, or fails. -/
def followsAnother (ended : Bool) (p : Parser) : Bool :=
  if ended then false
  else
    match p.step with
    | (.ok (some (.streamEnd, _)), _) => false
    | (.ok none, _) => false
    | _ => true

/-- The first document of a text, and whether another follows.  Characters the reader
refuses stop it before any event. -/
def loadText (text : String) : Document × Bool :=
  match readerCheck text with
  | some e => ({ error := some (.malformed e) }, false)
  | none =>
      let (document, ended, p) := loadFirst (10 * (text.length + 4)) {} (Parser.ofText text)
      (document, followsAnother (ended || document.error.isSome) p)

end BuildWorker.Yaml
