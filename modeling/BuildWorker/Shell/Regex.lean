import BuildWorker.Shell.Glob
/-!
# Extended regular expressions

The regular expressions of `[[ text =~ regex ]]`: POSIX extended syntax with the usual
extensions.

* Alternation `|`, grouping `( )` (every group captures), repetition `*`, `+`, `?` and
  `{m}`, `{m,}`, `{m,n}`, the anchors `^` and `$`, `.` for any character.
* Bracket sets as in patterns, where a backslash is an ordinary character.
* Escapes: `\w` `\W` `\s` `\S` for word and space characters, `\b` `\B` `\<` `\>` for
  word edges, `\1` to `\9` for what a group matched, and a backslash before any other
  character for the character itself.

A match is the leftmost one, and of those the longest; the groups are those of the
first way, in order of preference (repetitions take as much as they can, alternatives
are tried left to right), that reaches that end.  Matching runs on an explicit step
budget.
-/

namespace BuildWorker.Shell

/-- A regular expression. -/
inductive Regex where
  | char (c : Char)
  | any
  | oneOf (negated : Bool) (items : List SetItem)
  | lineStart
  | lineEnd
  /-- `\b` (`inside` false) and `\B` (true). -/
  | wordEdge (inside : Bool)
  | wordStart
  | wordEnd
  | backref (n : Nat)
  | group (index : Nat) (body : Regex)
  | alt (options : List Regex)
  | seq (items : List Regex)
  | repeat (body : Regex) (least : Nat) (most : Option Nat)
  deriving Repr, Inhabited

/-- Why a regular expression could not be read. -/
inductive RegexError where
  | unmatchedParen
  | unmatchedBracket
  | badRepeat
  deriving DecidableEq, Repr, Inhabited

/-! ## Reading -/

/-- The state of reading: characters left, marked when quoted, and the number of groups
opened so far. -/
abbrev RegexRead := ExceptT RegexError (StateM (List (Char × Bool) × Nat))

def regexPeek : RegexRead (Option (Char × Bool)) := do pure (← get).1.head?

def regexTake : RegexRead Unit := modify fun (cs, n) => (cs.drop 1, n)

/-- Reads a count of a `{m,n}` repetition, if digits come next. -/
def readRegexCount (cs : List (Char × Bool)) : Option Nat × List (Char × Bool) :=
  let ds := cs.takeWhile fun (c, q) => !q && c.isDigit
  if ds.isEmpty then (none, cs)
  else (some (ds.foldl (fun n (c, _) => n * 10 + (c.toNat - '0'.toNat)) 0), cs.drop ds.length)

/-- Reads the bounds of a `{m,n}` repetition after the brace: the bounds and what follows
the closing brace, if it is well formed. -/
def readInterval (cs : List (Char × Bool)) : Option ((Nat × Option Nat) × List (Char × Bool)) :=
  match readRegexCount cs with
  | (some m, (',', false) :: rest) =>
      match readRegexCount rest with
      | (n, ('\x7d', false) :: after) => some ((m, n), after)
      | _ => none
  | (some m, ('\x7d', false) :: after) => some ((m, some m), after)
  | _ => none

mutual

/-- Alternatives separated by `|`. -/
def readAlternatives : Nat → RegexRead Regex
  | 0 => throw .badRepeat
  | fuel + 1 => do
      let first ← readSequence fuel
      let mut options := #[first]
      for _ in [0:(← get).1.length + 1] do
        match ← regexPeek with
        | some ('|', false) =>
            regexTake
            options := options.push (← readSequence fuel)
        | _ => break
      pure (if options.size == 1 then first else .alt options.toList)

/-- Pieces one after another, up to `|`, `)` or the end. -/
def readSequence : Nat → RegexRead Regex
  | 0 => throw .badRepeat
  | fuel + 1 => do
      let mut items : Array Regex := #[]
      for _ in [0:(← get).1.length + 1] do
        match ← regexPeek with
        | none => break
        | some ('|', false) => break
        | some (')', false) => break
        | some _ =>
            let atom ← readAtom fuel
            items := items.push (← readRepeats atom)
      pure (match items.toList with
        | [one] => one
        | many => .seq many)

/-- Repetition operators after an atom. -/
def readRepeats (atom : Regex) : RegexRead Regex := do
  let mut r := atom
  for _ in [0:(← get).1.length + 1] do
    match ← regexPeek with
    | some ('*', false) => regexTake; r := .repeat r 0 none
    | some ('+', false) => regexTake; r := .repeat r 1 none
    | some ('?', false) => regexTake; r := .repeat r 0 (some 1)
    | some ('\x7b', false) =>
        let (cs, n) ← get
        match readInterval (cs.drop 1) with
        | some ((m, most), after) =>
            set (after, n)
            r := .repeat r m most
        | none => break
    | _ => break
  pure r

/-- One atom: a character, a set, an anchor, an escape, or a group. -/
def readAtom : Nat → RegexRead Regex
  | 0 => throw .badRepeat
  | fuel + 1 => do
      match ← regexPeek with
      | none => pure (.seq [])
      | some (c, true) => regexTake; pure (.char c)
      | some (c, false) =>
          regexTake
          match c with
          | '.' => pure .any
          | '^' => pure .lineStart
          | '$' => pure .lineEnd
          | '(' =>
              let (cs, n) ← get
              set (cs, n + 1)
              let body ← readAlternatives fuel
              match ← regexPeek with
              | some (')', false) => regexTake; pure (.group (n + 1) body)
              | _ => throw .unmatchedParen
          | '[' =>
              let (cs, n) ← get
              -- a backslash is ordinary inside brackets
              let plain := cs.map fun (d, q) => if d == '\\' then (d, true) else (d, q)
              match readBracket plain with
              | some (negated, items, _) =>
                  let used := cs.length - (match readBracket plain with
                    | some (_, _, rest) => rest.length
                    | none => 0)
                  set (cs.drop used, n)
                  pure (.oneOf negated items)
              | none => throw .unmatchedBracket
          | '\\' =>
              match ← regexPeek with
              | none => pure (.char '\\')
              | some (d, _) =>
                  regexTake
                  match d with
                  | 'w' => pure (.oneOf false [.named "alnum", .range '_' '_'])
                  | 'W' => pure (.oneOf true [.named "alnum", .range '_' '_'])
                  | 's' => pure (.oneOf false [.named "space"])
                  | 'S' => pure (.oneOf true [.named "space"])
                  | 'b' => pure (.wordEdge false)
                  | 'B' => pure (.wordEdge true)
                  | '<' => pure .wordStart
                  | '>' => pure .wordEnd
                  | _ =>
                      if '1' ≤ d && d ≤ '9' then pure (.backref (d.toNat - '0'.toNat))
                      else pure (.char d)
          | ')' => throw .unmatchedParen
          | _ => pure (.char c)

end

/-- Reads a regular expression from characters marked when quoted; gives it and the
number of its groups. -/
def readRegex (cs : List (Char × Bool)) : Except RegexError (Regex × Nat) :=
  let act : RegexRead Regex := do
    let r ← readAlternatives (cs.length + 2)
    match ← regexPeek with
    | none => pure r
    | some _ => throw .unmatchedParen
  match (act.run).run (cs, 0) with
  | (.ok r, (_, n)) => .ok (r, n)
  | (.error e, _) => .error e

/-! ## Matching -/

/-- The spans the groups matched so far, by group number. -/
abbrev Captures := List (Nat × (Nat × Nat))

/-- Whether a character is a word character for `\b` and its kin. -/
def isRegexWord (c : Char) : Bool := inClass "alnum" c || c == '_'

/-- Matches a regular expression at a position of a text and goes on with the
continuation; the first success in order of preference wins.  `fold` ignores case. -/
def matchRegex (text : Array Char) (fold : Bool) :
    Nat → Regex → Nat → Captures → (Nat → Captures → Option Captures) → Option Captures
  | 0, _, _, _, _ => none
  | fuel + 1, r, pos, caps, k =>
      let here := text[pos]?
      let before := if pos == 0 then none else text[pos - 1]?
      let wordBefore := before.any isRegexWord
      let wordAfter := here.any isRegexWord
      match r with
      | .char c =>
          match here with
          | some d => if sameChar fold c d then k (pos + 1) caps else none
          | none => none
      | .any => if here.isSome then k (pos + 1) caps else none
      | .oneOf negated items =>
          match here with
          | some d =>
              let hit := inSet items d || (fold && (inSet items d.toLower || inSet items d.toUpper))
              if hit != negated then k (pos + 1) caps else none
          | none => none
      | .lineStart => if pos == 0 then k pos caps else none
      | .lineEnd => if pos == text.size then k pos caps else none
      | .wordEdge inside => if (wordBefore != wordAfter) != inside then k pos caps else none
      | .wordStart => if !wordBefore && wordAfter then k pos caps else none
      | .wordEnd => if wordBefore && !wordAfter then k pos caps else none
      | .backref n =>
          match caps.lookup n with
          | some (a, b) =>
              let len := b - a
              if pos + len ≤ text.size &&
                  (List.range len).all (fun i => sameChar fold (text[a + i]?.getD ' ') (text[pos + i]?.getD ' ')) then
                k (pos + len) caps
              else none
          | none => k pos caps
      | .group n body =>
          matchRegex text fold fuel body pos caps fun e caps' =>
            k e ((n, (pos, e)) :: caps'.filter (·.1 != n))
      | .alt options =>
          options.findSome? fun o => matchRegex text fold fuel o pos caps k
      | .seq items =>
          match items with
          | [] => k pos caps
          | first :: rest => matchRegex text fold fuel first pos caps fun e caps' =>
              matchRegex text fold fuel (.seq rest) e caps' k
      | .repeat body least most =>
          let more : Option Captures :=
            if most == some 0 then none
            else
              matchRegex text fold fuel body pos caps fun e caps' =>
                -- a repetition that matched nothing is not repeated again
                if e == pos && least == 0 then none
                else matchRegex text fold fuel (.repeat body (least - 1) (most.map (· - 1))) e caps' k
          match more with
          | some c => some c
          | none => if least == 0 then k pos caps else none

/-- The step budget of a match. -/
def regexFuel (text : Array Char) (r : Regex) : Nat := (text.size + 2) * 64 + (toString (repr r)).length * 4

/-- The leftmost-longest match of a regular expression in a text: the span of the whole
match and of each group (none for a group that took no part), or nothing. -/
def regexSearch (r : Regex) (groups : Nat) (fold : Bool) (s : String) :
    Option (List (Option (Nat × Nat))) :=
  let text := s.toList.toArray
  let fuel := regexFuel text r
  let starts := List.range (text.size + 1)
  starts.findSome? fun start =>
    if (matchRegex text fold fuel r start [] fun _ caps => some caps).isNone then none else
    let ends := (List.range (text.size + 1 - start)).reverse.map (start + ·)
    ends.findSome? fun stop =>
      (matchRegex text fold fuel r start [] fun e caps => if e == stop then some caps else none).map
        fun caps => some (start, stop) :: (List.range groups).map fun i => caps.lookup (i + 1)

end BuildWorker.Shell
