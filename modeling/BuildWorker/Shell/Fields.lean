import BuildWorker.Shell.Glob
import BuildWorker.Files.Tree
/-!
# Fields

What expansion makes of a word before it becomes arguments.

Expansion gives *pieces*: characters marked with whether they came from an unquoted
expansion (and may be split into fields) and whether they are unquoted (and may be a
file-name pattern), with markers for the boundaries between the elements of `"$@"` and
for quoted parts, which keep an empty field alive.

**Splitting** follows the rules for `$IFS`.  Its space, tab and line feed are *white*
separators, its other characters *hard* ones.  White separators at the start and end of
a word are dropped and a run of them separates two fields; a hard separator, with any
white separators around it, separates two fields too, so two hard separators in a row
enclose an empty field.  A separator at the very end makes no empty field after it.

**File names**: a field with an unquoted `*`, `?` or `[` is a pattern for paths, matched
one directory level at a time.  A name starting with a dot is matched only by a pattern
that starts with a dot (unless `dotglob`), and `.` and `..` never.  `**` stands for any
number of directory levels when `globstar` is on.  The names are sorted; a pattern that
matches nothing stays as it is written, unless `nullglob` drops it.
-/

namespace BuildWorker.Shell

/-- Expanded text. -/
inductive Piece where
  /-- Characters; `split` when they came from an unquoted expansion, `glob` when
  unquoted. -/
  | chars (s : String) (split glob : Bool)
  /-- A boundary between fields of `"$@"`; where the pieces are not split, the text that
  joins the two sides. -/
  | boundary (joiner : String)
  /-- A quoted part: the field exists even if it is empty. -/
  | keep
  deriving DecidableEq, Repr, Inhabited

/-- One element of the stream that splitting reads. -/
inductive SplitItem where
  | char (c : Char) (split glob : Bool)
  | boundary
  | keep
  deriving DecidableEq, Repr, Inhabited

/-- The stream of pieces. -/
def splitItems (pieces : List Piece) : List SplitItem :=
  pieces.flatMap fun
    | .chars s split glob => s.toList.map fun c => SplitItem.char c split glob
    | .boundary _ => [.boundary]
    | .keep => [.keep]

/-- A field being built: its characters (marked when they may be a pattern), and whether
it exists even when empty. -/
structure OpenField where
  chars : List (Char × Bool) := []
  kept : Bool := false
  deriving Repr, Inhabited

/-- Whether a field being built has anything in it. -/
def OpenField.live (f : OpenField) : Bool := f.kept || !f.chars.isEmpty

/-- Where splitting stands: at the start of a word (white separators are skipped), inside
a field, or after a separator (white ones still absorbed, `white` when it was a white
one that may still take one hard separator). -/
inductive SplitState where
  | start
  | field (f : OpenField)
  | delimited (white : Bool)
  deriving Repr, Inhabited

/-- Splits pieces into fields by the separators of `ifs`. -/
def splitFields (ifs : String) (pieces : List Piece) : List (List (Char × Bool)) :=
  let isSep (c : Char) := ifs.toList.contains c
  let isWhite (c : Char) := isSep c && (c == ' ' || c == '\t' || c == '\n')
  let emit (done : Array (List (Char × Bool))) (f : OpenField) := done.push f.chars.reverse
  let step (acc : Array (List (Char × Bool)) × SplitState) (item : SplitItem) :=
    let (done, st) := acc
    match item with
    | .boundary =>
        match st with
        | .field f => (if f.live then emit done f else done, .start)
        | _ => (done, .start)
    | .keep =>
        match st with
        | .field f => (done, .field { f with kept := true })
        | _ => (done, .field { kept := true })
    | .char c split glob =>
        if split && isSep c then
          let white := isWhite c
          match st with
          | .start => if white then (done, .start) else (done.push [], .delimited false)
          | .field f =>
              -- a separator ends the field
              (if f.live then emit done f else done, .delimited white)
          | .delimited w =>
              if white then (done, .delimited w)
              else if w then (done, .delimited false)
              else (done.push [], .delimited false)
        else
          match st with
          | .field f => (done, .field { f with chars := (c, glob) :: f.chars })
          | _ => (done, .field { chars := [(c, glob)] })
  let (done, st) := (splitItems pieces).foldl step (#[], .start)
  let done := match st with
    | .field f => if f.live then emit done f else done
    | _ => done
  done.toList

/-- Pieces as one text, without splitting; the elements of `"$@"` are joined by their
joiner. -/
def piecesText (pieces : List Piece) : String :=
  String.join (pieces.map fun
    | .chars s _ _ => s
    | .boundary j => j
    | .keep => "")

/-- Pieces as characters marked when they are quoted, for a pattern. -/
def piecesPattern (pieces : List Piece) : List (Char × Bool) :=
  pieces.flatMap fun
    | .chars s _ glob => s.toList.map (fun c => (c, !glob))
    | .boundary j => j.toList.map (·, true)
    | .keep => []

/-! ## File names -/

/-- How file-name patterns behave: hidden names, the meaning of `**`, case, and extended
groups. -/
structure GlobOptions where
  dotglob : Bool := false
  globstar : Bool := false
  nocase : Bool := false
  extglob : Bool := false
  deriving Repr, Inhabited

/-- Splits a marked field at its slashes. -/
def splitSlashes (field : List (Char × Bool)) : List (List (Char × Bool)) :=
  let (parts, cur) := field.foldl (fun (acc : Array (List (Char × Bool)) × List (Char × Bool)) p =>
    if p.1 == '/' then (acc.1.push acc.2.reverse, []) else (acc.1, p :: acc.2)) (#[], [])
  (parts.push cur.reverse).toList

/-- Whether a marked component is a pattern. -/
def isPatternPart (part : List (Char × Bool)) : Bool := hasGlobChars (part.map fun (c, g) => (c, !g))

/-- The names in a directory that a component matches, sorted. -/
def matchNames (files : FileTree) (dir : List String) (o : GlobOptions) (part : List (Char × Bool)) :
    List String :=
  let marked := part.map fun (c, g) => (c, !g)
  let leadingDot := part.head?.map (·.1) == some '.'
  (files.children dir).filter fun n =>
    (leadingDot || o.dotglob || !n.startsWith ".") && n != "." && n != ".." &&
      globMatchesWith o.extglob o.nocase marked n

/-- All directories below a directory, itself first, each as the relative path of names
(for `**`). -/
def directoriesBelow (files : FileTree) (dir : List String) (o : GlobOptions) : List (List String) :=
  let below := (files.below dir).filter fun p => files.isDir p &&
    (o.dotglob || !(p.drop dir.length).any (·.startsWith "."))
  let rel := (below.map (·.drop dir.length)).mergeSort fun a b =>
    decide ("/".intercalate a ≤ "/".intercalate b)
  [] :: rel

/-- Expands the components of a path pattern from a directory: the relative texts of the
paths they match, each path's parts joined by slashes. -/
def expandParts (files : FileTree) (o : GlobOptions) : Nat → List String → List (List (Char × Bool)) →
    List (List String)
  | 0, _, _ => []
  | _ + 1, _, [] => [[]]
  | fuel + 1, dir, part :: rest =>
      let text := String.ofList (part.map (·.1))
      if o.globstar && part == [('*', true), ('*', true)] then
        (directoriesBelow files dir o).flatMap fun sub =>
          if rest.isEmpty then
            -- a final `**` matches the files and directories at every level
            (matchNames files (dir ++ sub) o [('*', true)]).map fun n => sub ++ [n]
          else (expandParts files o fuel (dir ++ sub) rest).map (sub ++ ·)
      else if !isPatternPart part then
        if rest.isEmpty then [[text]]
        else (expandParts files o fuel (dir ++ [text]) rest).map (text :: ·)
      else
        (matchNames files dir o part).flatMap fun n =>
          if rest.isEmpty then [[n]]
          else if files.isDir (dir ++ [n]) then (expandParts files o fuel (dir ++ [n]) rest).map (n :: ·)
          else []

/-- The paths a field matches as a pattern, sorted level by level; nothing when it has no
match, and `none` when it is no pattern at all. -/
def globField (files : FileTree) (cwd : List String) (o : GlobOptions) (field : List (Char × Bool)) :
    Option (List String) :=
  if !hasGlobChars (field.map fun (c, g) => (c, !g)) then none
  else
    let absolute := field.head?.map (·.1) == some '/'
    let parts := splitSlashes field
    let parts := if absolute then parts.drop 1 else parts
    -- empty parts from doubled slashes are dropped
    let parts := parts.filter (!·.isEmpty)
    let start := if absolute then [] else cwd
    let found := expandParts files o (parts.length + 2) start parts
    let found := found.filter fun names => (files.get? (resolvePath start ("/".intercalate names))).isSome
    let texts := found.map fun names => (if absolute then "/" else "") ++ "/".intercalate names
    let texts := if (String.ofList (field.map (·.1))).endsWith "/" then
        (texts.filter fun t => files.isDir (resolvePath start t)).map (· ++ "/")
      else texts
    some texts

end BuildWorker.Shell
