import BuildWorker.Yaml.Document
import BuildWorker.Yaml.Scalar
/-!
# Reading values from a YAML document

Values are read from the events of a loaded document by a cursor, one reader per kind
of value: strings, unsigned integers, booleans, optional values and records with
named fields.  Each reader knows the path to its value (`api.timeout`) and the mark
of the event it starts at; an error that has no place yet gets that path and mark,
so a message says where in the value and where in the text it arose.

An alias makes the cursor read the anchored events again, under a path that names the
alias's own place, and then return.  The number of such visits is bounded by a
hundred times the document's length, which keeps aliases that refer to aliases from
growing without end.

A record reads a mapping: each key names a field, a field may appear once, keys that
name no field are skipped whole, and fields that do not appear keep their defaults.
An empty document or an empty plain scalar stands for an empty record.
-/

set_option autoImplicit false

namespace BuildWorker.Yaml

/-- Where a value sits in a document: under a key of a mapping, in place of an alias,
or under a key that is not a plain name. -/
inductive Path where
  | root
  | key (parent : Path) (name : String)
  | alias (parent : Path)
  | unknown (parent : Path)
  deriving DecidableEq, Repr, Inhabited

/-- The text of a path: keys joined by dots, `?` for a key that is not a name, `.` for
the whole document. -/
def Path.render : Path → String
  | .root => "."
  | .key parent name => (match parent with | .root => "" | _ => parent.render ++ ".") ++ name
  | .alias parent => parent.render
  | .unknown parent => (match parent with | .root => "" | _ => parent.render ++ ".") ++ "?"

/-- A cursor into a loaded document, with the count of alias visits so far. -/
structure Cursor where
  document : Document
  pos : Nat := 0
  visits : Nat := 0
  deriving Inhabited

/-- A reading step. -/
abbrev DecodeM := ExceptT YamlError (StateM Cursor)

/-- What running out of events means: the error that ended loading, or the end. -/
def outOfEvents {α : Type} : DecodeM α := do
  throw ((← get).document.error.getD .endOfStream)

/-- The next event, not taken. -/
def peekEvent : DecodeM (Event × Mark) := do
  let c ← get
  match c.document.events[c.pos]? with
  | some e => pure e
  | none => outOfEvents

/-- Takes the next event. -/
def takeEvent : DecodeM (Event × Mark) := do
  let e ← peekEvent
  modify fun c => { c with pos := c.pos + 1 }
  pure e

/-- Gives an error without a place the given mark and path. -/
def YamlError.placed (mark : Mark) (path : Path) : YamlError → YamlError
  | .message text none => .message text (some (mark, path.render))
  | e => e

/-- Runs a reader, placing its unplaced errors at a mark and path. -/
def placing {α : Type} (mark : Mark) (path : Path) (m : DecodeM α) : DecodeM α :=
  tryCatch m fun e => throw (e.placed mark path)

/-- Reads through an alias: the cursor moves to the anchored event, the reader runs,
and the cursor returns to where it was. -/
def throughAlias {α : Type} (anchor : Nat) (m : DecodeM α) : DecodeM α := do
  let c ← get
  if c.visits + 1 > c.document.events.size * 100 then throw .repetitionLimit
  let back := c.pos
  set { c with visits := c.visits + 1, pos := (c.document.anchorTarget anchor).getD c.document.events.size }
  let result ← m
  modify fun c => { c with pos := back }
  pure result

/-- The error for an event that a value expecting `expected` does not accept. -/
def mismatch (event : Event) (expected : String) : YamlError :=
  match event with
  | .scalar text style tag => .message (scalarMismatch text style tag expected) none
  | .sequenceStart => .message ("invalid type: sequence, expected " ++ expected) none
  | .mappingStart => .message ("invalid type: map, expected " ++ expected) none
  | .void => .endOfStream
  | .alias _ | .sequenceEnd | .mappingEnd =>
      .message ("invalid type: unexpected event, expected " ++ expected) none

/-- Skips one whole value. -/
def skipValue : DecodeM Unit := do
  let mut depth : Nat := 0
  for _ in List.range ((← get).document.events.size + 1) do
    let (e, _) ← takeEvent
    match e with
    | .sequenceStart | .mappingStart => depth := depth + 1
    | .sequenceEnd | .mappingEnd => depth := depth - 1
    | _ => pure ()
    if depth == 0 then return

/-- Reads any scalar as its text; `expected` words the error for anything else. -/
def readText (expected : String) : Nat → Path → DecodeM String
  | 0, _ => throw .repetitionLimit
  | fuel + 1, path => do
      let (e, mark) ← takeEvent
      placing mark path do
        match e with
        | .scalar text _ _ => pure text
        | .alias anchor => throughAlias anchor (readText expected fuel (.alias path))
        | other => throw (mismatch other expected)

/-- Reads a plain scalar as an unsigned integer of at most `high`. -/
def readNat (expected : String) (high : Nat) : Nat → Path → DecodeM Nat
  | 0, _ => throw .repetitionLimit
  | fuel + 1, path => do
      let (e, mark) ← takeEvent
      placing mark path do
        match e with
        | .scalar text .plain tag =>
            match readUnsigned text high with
            | some n => pure n
            | none => throw (mismatch (.scalar text .plain tag) expected)
        | .alias anchor => throughAlias anchor (readNat expected high fuel (.alias path))
        | other => throw (mismatch other expected)

/-- Reads a plain boolean word. -/
def readBool : Nat → Path → DecodeM Bool
  | 0, _ => throw .repetitionLimit
  | fuel + 1, path => do
      let (e, mark) ← takeEvent
      placing mark path do
        match e with
        | .scalar text .plain tag =>
            match boolWord? text with
            | some b => pure b
            | none => throw (mismatch (.scalar text .plain tag) "a boolean")
        | .alias anchor => throughAlias anchor (readBool fuel (.alias path))
        | other => throw (mismatch other "a boolean")

/-- Reads an optional value: a plain untagged null word or empty plain scalar is
absent, as is an empty document; anything else is read by `inner`. -/
def readOptional {α : Type} (inner : Nat → Path → DecodeM α) : Nat → Path → DecodeM (Option α)
  | 0, _ => throw .repetitionLimit
  | fuel + 1, path => do
      let (e, _) ← peekEvent
      match e with
      | .alias anchor =>
          let _ ← takeEvent
          throughAlias anchor (readOptional inner fuel (.alias path))
      | .scalar text style tag =>
          let present ←
            if style != .plain then pure true
            else match tag with
              | some t =>
                  if t == nullTag then
                    if isNullWord text then pure false
                    else throw (.message ("invalid value: " ++ stringDescription text ++
                      ", expected null") none)
                  else pure true
              | none => pure !(text.isEmpty || isNullWord text)
          if present then some <$> inner fuel path
          else
            let _ ← takeEvent
            pure none
      | .void =>
          let _ ← takeEvent
          pure none
      | _ => some <$> inner fuel path

/-- A field of a record under construction of type `δ`: its key and how its value is
read into the record. -/
structure FieldRule (δ : Type) where
  name : String
  read : Nat → Path → δ → DecodeM δ

/-- Reads the entries of a mapping into a record, up to the mapping's end.  A key is
read as a field name; a field seen twice is an error, a key naming no field has its
value skipped. -/
def readEntries {δ : Type} (fields : List (FieldRule δ)) (path : Path) :
    Nat → List String → δ → DecodeM δ
  | 0, _, draft => pure draft
  | fuel + 1, seen, draft => do
      let (e, _) ← peekEvent
      match e with
      | .mappingEnd | .void => pure draft
      | _ =>
          let valuePath := match e with
            | .scalar text _ _ => Path.key path text
            | _ => Path.unknown path
          let name ← readText "field identifier" fuel path
          match fields.find? (·.name == name) with
          | some field =>
              if seen.contains name then
                throw (.message ("duplicate field `" ++ name ++ "`") none)
              let draft ← field.read fuel valuePath draft
              readEntries fields path fuel (name :: seen) draft
          | none =>
              skipValue
              readEntries fields path fuel seen draft

/-- Reads a record named `name` from a mapping, starting from `empty`. -/
def readRecord {δ : Type} (name : String) (fields : List (FieldRule δ)) (empty : δ) :
    Nat → Path → DecodeM δ
  | 0, _ => throw .repetitionLimit
  | fuel + 1, path => do
      let (e, mark) ← takeEvent
      placing mark path do
        match e with
        | .alias anchor => throughAlias anchor (readRecord name fields empty fuel (.alias path))
        | .mappingStart =>
            let record ← readEntries fields path fuel [] empty
            let _ ← takeEvent
            pure record
        | .void => pure empty
        | .scalar text .plain tag =>
            if text.isEmpty then pure empty
            else throw (mismatch (.scalar text .plain tag) ("struct " ++ name))
        | other => throw (mismatch other ("struct " ++ name))

/-- Reads a whole text as one value: the reader runs on the first document; its error
comes first, then the error that ended loading, then a second document. -/
def readDocumentText {α : Type} (text : String) (reader : Nat → Path → DecodeM α) :
    Except YamlError α :=
  let (document, another) := loadText text
  let fuel := document.events.size + 8
  match (((reader fuel .root).run).run { document := document }).1 with
  | .error e => .error e
  | .ok value =>
      match document.error with
      | some e => .error e
      | none => if another then .error .moreThanOneDocument else .ok value

end BuildWorker.Yaml
