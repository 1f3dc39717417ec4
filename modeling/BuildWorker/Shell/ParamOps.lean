import BuildWorker.Shell.Glob
import BuildWorker.Shell.Variables
import BuildWorker.Shell.Lex
/-!
# Operations on parameter values

What `${name op ...}` does to a value once its pattern, replacement and numbers are
known: all of it is a function of texts.

* Removing a prefix or suffix takes the shortest or longest part that the pattern
  matches as a whole.
* Replacing takes, at the leftmost place where the pattern matches, the longest match;
  the global form goes on after it (after one more character when the match was empty).
  In the replacement an unquoted `&` stands for the text matched.
* Changing case applies to the first character, or to every character, that the pattern
  matches (any character when the pattern is empty).
* A slice counts characters of a text, or elements of a list; a negative offset counts
  back from the end, a negative length names an end counted back from the end.
* The transformations `@Q`, `@E`, `@A`, `@a`, `@U`, `@u`, `@L` and `@K` quote, unescape,
  write an assignment, list attributes, or change case.
-/

namespace BuildWorker.Shell

/-! ## Patterns -/

/-- Whether characters match a pattern as a whole. -/
def matchesWhole (items : List PatternItem) (cs : List Char) : Bool :=
  matchItems false (matchFuel items cs) items cs

/-- The value without its shortest (or longest) prefix that matches the pattern. -/
def dropMatchingPrefix (extended longest : Bool) (pattern : List (Char × Bool)) (s : String) : String :=
  let items := readPattern extended (pattern.length + 1) pattern
  let cs := s.toList
  let cuts := List.range (cs.length + 1)
  let cuts := if longest then cuts.reverse else cuts
  match cuts.find? (fun k => matchesWhole items (cs.take k)) with
  | some k => String.ofList (cs.drop k)
  | none => s

/-- The value without its shortest (or longest) suffix that matches the pattern. -/
def dropMatchingSuffix (extended longest : Bool) (pattern : List (Char × Bool)) (s : String) : String :=
  let items := readPattern extended (pattern.length + 1) pattern
  let cs := s.toList
  let cuts := List.range (cs.length + 1)
  let cuts := if longest then cuts.reverse else cuts
  match cuts.find? (fun k => matchesWhole items (cs.drop (cs.length - k))) with
  | some k => String.ofList (cs.take (cs.length - k))
  | none => s

/-- The replacement text for one match: an unquoted `&` stands for the matched text. -/
def replacementFor (replacement : List (Char × Bool)) (matched : List Char) : List Char :=
  replacement.flatMap fun (c, quoted) => if c == '&' && !quoted then matched else [c]

/-- The longest match starting at a position, as its end. -/
def longestMatchAt (items : List PatternItem) (cs : List Char) (i : Nat) : Option Nat :=
  let ends := (List.range (cs.length + 1 - i)).reverse.map (i + ·)
  ends.find? fun j => matchesWhole items ((cs.drop i).take (j - i))

/-- Replaces matches from a position on: the first only, or every one. -/
def replaceFrom (every : Bool) (items : List PatternItem) (replacement : List (Char × Bool))
    (cs : List Char) : Nat → Nat → List Char → List Char
  | 0, _, out => out ++ cs
  | fuel + 1, i, out =>
      -- the search stops at the end of the text: no empty match is tried there
      if i ≥ cs.length then out ++ cs.drop i
      else
        let found := (List.range (cs.length + 1 - i)).findSome? fun k =>
          (longestMatchAt items cs (i + k)).map fun j => (i + k, j)
        match found with
        | none => out ++ cs.drop i
        | some (a, b) =>
            let out := out ++ (cs.drop i).take (a - i) ++ replacementFor replacement ((cs.drop a).take (b - a))
            if !every then out ++ cs.drop b
            else if b == a then
              -- an empty match lets one character through before the next try
              match cs[a]? with
              | some c => replaceFrom every items replacement cs fuel (a + 1) (out ++ [c])
              | none => out
            else replaceFrom every items replacement cs fuel b out

/-- `${name/pattern/replacement}` and its anchored and global forms. -/
def replaceMatching (extended : Bool) (anchor : ReplaceAnchor) (pattern replacement : List (Char × Bool))
    (s : String) : String :=
  let items := readPattern extended (pattern.length + 1) pattern
  let cs := s.toList
  match anchor with
  | .start =>
      let ends := (List.range (cs.length + 1)).reverse
      match ends.find? (fun j => matchesWhole items (cs.take j)) with
      | some j => String.ofList (replacementFor replacement (cs.take j) ++ cs.drop j)
      | none => s
  | .finish =>
      match (List.range (cs.length + 1)).find? (fun i => matchesWhole items (cs.drop i)) with
      | some i => String.ofList (cs.take i ++ replacementFor replacement (cs.drop i))
      | none => s
  | .first | .all =>
      if pattern.isEmpty then s
      -- an empty value the pattern matches becomes the replacement as written
      else if cs.isEmpty then
        if matchesWhole items [] then String.ofList (replacement.map (·.1)) else s
      else String.ofList (replaceFrom (anchor == .all) items replacement cs (cs.length + 2) 0 [])

/-- A character with its case changed. -/
def CaseChange.apply : CaseChange → Char → Char
  | .upper, c => Text.upperChar c
  | .lower, c => Text.lowerChar c
  | .toggle, c =>
      if Text.hasLowerCase c then Text.lowerChar c
      else if Text.hasUpperCase c then Text.upperChar c
      else c

/-- `${name^pattern}` and its kin: the first character, or every one, that matches the
pattern gets its case changed. -/
def changeCaseMatching (extended : Bool) (change : CaseChange) (every : Bool)
    (pattern : List (Char × Bool)) (s : String) : String :=
  let items := readPattern extended (pattern.length + 1) pattern
  let hit (c : Char) : Bool := pattern.isEmpty || matchesWhole items [c]
  String.ofList (s.toList.zipIdx.map fun (c, i) =>
    if (every || i == 0) && hit c then change.apply c else c)

/-! ## Slices -/

/-- Why a slice has no value. -/
inductive SliceProblem where
  /-- The offset is outside the value: the slice is empty. -/
  | outside
  /-- A negative length reaches before the offset. -/
  | negativeLength
  deriving DecidableEq, Repr

/-- The start and end of a slice of something of a length, from an offset and an
optional length. -/
def sliceBounds (len : Nat) (offset : Int) (length : Option Int) : Except SliceProblem (Nat × Nat) :=
  let start := if offset < 0 then offset + len else offset
  if start < 0 || start > len then .error .outside
  else
    match length with
    | none => .ok (start.toNat, len)
    | some l =>
        if l < 0 then
          let stop := l + len
          if stop < start then .error .negativeLength else .ok (start.toNat, stop.toNat)
        else .ok (start.toNat, min len (start + l).toNat)

/-- The elements of a list from a position on, at most `count` of them. -/
def takeRange {α : Type} (xs : List α) (start : Nat) (count : Option Nat) : List α :=
  let rest := xs.drop start
  match count with
  | some n => rest.take n
  | none => rest

/-! ## Transformations -/

/-- A text quoted so that the shell reads it back: `''` when empty, `$'...'` when it has
characters that do not print, else single quotes. -/
def quoteForReuse (s : String) : String :=
  if s.isEmpty then "''"
  else if needsAnsiQuotes s then ansiQuote s
  else singleQuote s

/-- The assignment that `${name@A}` writes for a text. -/
def assignmentText (name : String) (v : Variable) (s : String) : String :=
  let flags := v.flags
  if flags.isEmpty then name ++ "=" ++ quoteForReuse s
  else "declare -" ++ flags ++ " " ++ name ++ "=" ++ quoteForReuse s

/-- Applies a transformation letter to a text. -/
def transformText (letter : Char) (name : String) (v : Option Variable) (s : String) : String :=
  match letter with
  | 'Q' | 'K' | 'k' => quoteForReuse s
  | 'E' => ansiUnescape (s.length + 1) s.toList ""
  | 'U' => Text.upperText s
  | 'L' => Text.lowerText s
  | 'u' =>
      match s.toList with
      | c :: rest => String.ofList (Text.upperChar c :: rest)
      | [] => s
  | 'a' => (v.map (·.flags)).getD ""
  | 'A' => assignmentText name ((v.getD {})) s
  | _ => s

end BuildWorker.Shell
