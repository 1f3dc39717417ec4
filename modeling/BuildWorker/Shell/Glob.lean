import BuildWorker.Text.WordClass
import BuildWorker.Text.Case
/-!
# Shell patterns

The patterns of `case`, of `[[ ... == ... ]]`, of `${name#pattern}` and its kin, and of
file names:

* `*` matches any run of characters and `?` any one character;
* `[...]` matches one character of a set: single characters, ranges such as `a-z` (by
  code point), classes such as `[:alpha:]`, with `!` or `^` first for the complement;
  a `]` right after the opening bracket belongs to the set, and a bracket that is never
  closed is an ordinary character;
* with extended patterns, `?(a|b)`, `*(a|b)`, `+(a|b)`, `@(a|b)` and `!(a|b)` match zero
  or one, any number, at least one, exactly one of the alternatives, or anything but
  them.

Every other character matches itself; a character that was quoted, or escaped with a
backslash, is always itself.  A pattern matches a text only as a whole.
-/

namespace BuildWorker.Shell

/-- One element of a bracket set. -/
inductive SetItem where
  | range (lo hi : Char)
  | named (cls : String)
  deriving DecidableEq, Repr, Inhabited

/-- One element of a pattern. -/
inductive PatternItem where
  | literal (c : Char)
  | anyChar
  | anyRun
  | oneOf (negated : Bool) (items : List SetItem)
  /-- An extended group: its kind (`?`, `*`, `+`, `@` or `!`) and alternatives. -/
  | group (kind : Char) (alternatives : List (List PatternItem))
  deriving Repr, Inhabited

/-! ## Character classes -/

/-- Whether a character belongs to a named class. -/
def inClass (cls : String) (c : Char) : Bool :=
  let n := c.toNat
  let letter := c.isAlpha || (n ≥ 128 && Text.isWordChar c && !c.isDigit)
  match cls with
  | "alpha" => letter
  | "digit" => c.isDigit
  | "alnum" => letter || c.isDigit
  | "upper" => c.isUpper
  | "lower" => c.isLower
  | "space" => c == ' ' || (9 ≤ n && n ≤ 13)
  | "blank" => c == ' ' || c == '\t'
  | "punct" => (32 < n && n < 127 && !c.isAlphanum)
  | "print" => n ≥ 32 && n != 127 && !(128 ≤ n && n < 160)
  | "graph" => n > 32 && n != 127 && !(128 ≤ n && n < 160)
  | "cntrl" => n < 32 || n == 127
  | "xdigit" => c.isDigit || ('a' ≤ c && c ≤ 'f') || ('A' ≤ c && c ≤ 'F')
  | "word" => letter || c.isDigit || c == '_'
  | _ => false

/-- Whether a character is in a bracket set. -/
def inSet (items : List SetItem) (c : Char) : Bool :=
  items.any fun
    | .range a b => a ≤ c && c ≤ b
    | .named cls => inClass cls c

/-! ## Reading patterns -/

/-- Reads a bracket expression after `[`: the items and what follows the closing `]`, or
nothing when it is not closed.  Characters are marked when quoted. -/
def readBracket (cs : List (Char × Bool)) : Option (Bool × List SetItem × List (Char × Bool)) :=
  let (negated, cs) := match cs with
    | ('!', false) :: rest => (true, rest)
    | ('^', false) :: rest => (true, rest)
    | _ => (false, cs)
  let rec items : Nat → Bool → List (Char × Bool) → Option (List SetItem × List (Char × Bool))
    | 0, _, _ => none
    | _ + 1, _, [] => none
    | fuel + 1, first, (c, q) :: rest =>
        if c == ']' && !q && !first then some ([], rest)
        else
          -- a class, an equivalence class or a collating symbol
          let special : Option (SetItem × List (Char × Bool)) :=
            if c == '[' && !q then
              match rest with
              | (d, false) :: more =>
                  if d == ':' || d == '=' || d == '.' then
                    let body := more.takeWhile fun (x, _) => x != d
                    let after := more.drop body.length
                    match after with
                    | (_, _) :: (']', _) :: tail =>
                        let text := String.ofList (body.map (·.1))
                        if d == ':' then some (.named text, tail)
                        else
                          match text.toList with
                          | [x] => some (.range x x, tail)
                          | _ => none
                    | _ => none
                  else none
              | _ => none
            else none
          match special with
          | some (item, after) => (items fuel false after).map fun (is, r) => (item :: is, r)
          | none =>
              let (lo, rest) := if c == '\\' && !q then
                  match rest with
                  | (d, _) :: more => (d, more)
                  | [] => (c, rest)
                else (c, rest)
              match rest with
              | ('-', false) :: (hi, hq) :: more =>
                  if hi == ']' && !hq then
                    (items fuel false rest).map fun (is, r) => (.range lo lo :: is, r)
                  else
                    let (hi, more) := if hi == '\\' && !hq then
                        match more with
                        | (d, _) :: m => (d, m)
                        | [] => (hi, more)
                      else (hi, more)
                    (items fuel false more).map fun (is, r) => (.range lo hi :: is, r)
              | _ => (items fuel false rest).map fun (is, r) => (.range lo lo :: is, r)
  (items (cs.length + 1) true cs).map fun (is, rest) => (negated, is, rest)

/-- Splits the inside of an extended group at its top-level bars, up to the closing
parenthesis: the alternatives and what follows, or nothing when it is not closed. -/
def splitGroup (cs : List (Char × Bool)) :
    Option (List (List (Char × Bool)) × List (Char × Bool)) :=
  let rec go : Nat → Nat → List (Char × Bool) → List (Char × Bool) → List (List (Char × Bool)) →
      Option (List (List (Char × Bool)) × List (Char × Bool))
    | 0, _, _, _, _ => none
    | _ + 1, _, [], _, _ => none
    | fuel + 1, depth, (c, q) :: rest, current, done =>
        if q then go fuel depth rest ((c, q) :: current) done
        else if c == '\\' then
          match rest with
          | d :: more => go fuel depth more (d :: (c, q) :: current) done
          | [] => none
        else if c == '(' then go fuel (depth + 1) rest ((c, q) :: current) done
        else if c == ')' then
          if depth == 0 then some ((done ++ [current.reverse]), rest)
          else go fuel (depth - 1) rest ((c, q) :: current) done
        else if c == '|' && depth == 0 then go fuel depth rest [] (done ++ [current.reverse])
        else go fuel depth rest ((c, q) :: current) done
  go (cs.length + 1) 0 cs [] []

/-- Reads a pattern from characters marked when quoted; `extended` turns on the groups. -/
def readPattern (extended : Bool) : Nat → List (Char × Bool) → List PatternItem
  | 0, _ => []
  | _ + 1, [] => []
  | fuel + 1, (c, quoted) :: rest =>
      if quoted then .literal c :: readPattern extended fuel rest
      else
        let groupHere : Option (List (List (Char × Bool)) × List (Char × Bool)) :=
          if extended && "?*+@!".toList.contains c then
            match rest with
            | ('(', false) :: inner => splitGroup inner
            | _ => none
          else none
        match groupHere with
        | some (alts, after) =>
            .group c (alts.map (readPattern extended fuel)) :: readPattern extended fuel after
        | none =>
            if c == '*' then .anyRun :: readPattern extended fuel rest
            else if c == '?' then .anyChar :: readPattern extended fuel rest
            else if c == '\\' then
              match rest with
              | (d, _) :: more => .literal d :: readPattern extended fuel more
              | [] => [.literal '\\']
            else if c == '[' then
              match readBracket rest with
              | some (negated, items, more) => .oneOf negated items :: readPattern extended fuel more
              | none => .literal '[' :: readPattern extended fuel rest
            else .literal c :: readPattern extended fuel rest

/-! ## Matching -/

/-- A character compared with another, ignoring case when `fold`. -/
def sameChar (fold : Bool) (a b : Char) : Bool :=
  if fold then Text.lowerChar a == Text.lowerChar b else a == b

mutual

/-- Whether a pattern matches the whole of a text. -/
def matchItems (fold : Bool) : Nat → List PatternItem → List Char → Bool
  | 0, _, _ => false
  | _ + 1, [], s => s.isEmpty
  | fuel + 1, item :: rest, s =>
      match item with
      | .anyRun =>
          if rest.isEmpty then true
          else (List.range (s.length + 1)).any fun k => matchItems fold fuel rest (s.drop k)
      | .anyChar =>
          match s with
          | _ :: more => matchItems fold fuel rest more
          | [] => false
      | .literal c =>
          match s with
          | d :: more => sameChar fold c d && matchItems fold fuel rest more
          | [] => false
      | .oneOf negated items =>
          match s with
          | d :: more =>
              let hit := inSet items d || (fold && (inSet items d.toLower || inSet items d.toUpper))
              (hit != negated) && matchItems fold fuel rest more
          | [] => false
      | .group kind alts =>
          let splits := List.range (s.length + 1)
          let anyAlt (t : List Char) : Bool := alts.any fun a => matchItems fold fuel a t
          match kind with
          | '@' => splits.any fun k => anyAlt (s.take k) && matchItems fold fuel rest (s.drop k)
          | '?' =>
              matchItems fold fuel rest s ||
                splits.any fun k => anyAlt (s.take k) && matchItems fold fuel rest (s.drop k)
          | '!' => splits.any fun k => !anyAlt (s.take k) && matchItems fold fuel rest (s.drop k)
          | '+' =>
              splits.any fun k => anyAlt (s.take k) && matchRepeat fold fuel alts rest (s.drop k)
          | _ => matchRepeat fold fuel alts rest s

/-- Whether any number of the alternatives, then the rest, match a text. -/
def matchRepeat (fold : Bool) : Nat → List (List PatternItem) → List PatternItem → List Char → Bool
  | 0, _, _, _ => false
  | fuel + 1, alts, rest, s =>
      matchItems fold fuel rest s ||
        (List.range s.length).any fun k =>
          alts.any (fun a => matchItems fold fuel a (s.take (k + 1))) &&
            matchRepeat fold fuel alts rest (s.drop (k + 1))

end

/-- Fuel for matching a pattern against a text. -/
def matchFuel (pattern : List PatternItem) (s : List Char) : Nat :=
  (pattern.length + 2) * (s.length + 2) + 64

/-- Whether a text matches a pattern given as marked characters. -/
def globMatchesWith (extended fold : Bool) (pattern : List (Char × Bool)) (s : String) : Bool :=
  let items := readPattern extended (pattern.length + 1) pattern
  matchItems fold (matchFuel items s.toList) items s.toList

/-- Whether a text matches a pattern given as marked characters, with extended groups. -/
def globMatches (pattern : List (Char × Bool)) (s : String) : Bool :=
  globMatchesWith true false pattern s

/-- Whether marked characters hold an unquoted pattern character. -/
def hasGlobChars (cs : List (Char × Bool)) : Bool :=
  cs.any fun (c, q) => !q && (c == '*' || c == '?' || c == '[')

end BuildWorker.Shell
