import BuildWorker.Yaml.Scalar
/-!
# Writing YAML

Records are written as block mappings, one `key: value` line per field.  A string value
is written plain when that reads back as the same string, and quoted or as a literal
block otherwise:

* Text that would read back as something else — empty, a null or boolean word, a
  number — is single-quoted, as are numbers with leading zeros.
* Text with a line feed is a literal block (`|`), with a chomping indicator when it
  does not end in exactly one line break and an indentation indicator when it starts
  with a space or break.
* Otherwise the text is analysed: indicators at the start, `: ` or ` #` inside, leading
  or trailing spaces and line breaks rule out plain style; characters that cannot be
  written as they are, or spaces next to breaks, rule out single quotes too, and the
  text is double-quoted with escapes.

A literal block that keeps trailing empty lines leaves the document open-ended, and
the document is then closed with `...`.
-/

set_option autoImplicit false

namespace BuildWorker.Yaml

/-- The ways a scalar is written. -/
inductive WriteStyle where
  | plain
  | singleQuoted
  | doubleQuoted
  | literal
  deriving DecidableEq, Repr

/-- Characters that can be written as they are: line feed, printable ASCII, and the
printable ranges above, without the byte order mark and the two non-characters at the
end of the basic plane. -/
def isPrintable (c : Char) : Bool :=
  let n := c.toNat
  n == 0x0A || (0x20 ≤ n && n ≤ 0x7E) || (0xA0 ≤ n && n ≤ 0xD7FF) ||
    (0xE000 ≤ n && n ≤ 0xFFFD && n != 0xFEFF) || n ≥ 0x10000

/-- What the analysis of a text allows. -/
structure Allowed where
  multiline : Bool
  blockPlain : Bool
  singleQuoted : Bool
  block : Bool
  deriving Repr

/-- The indicator characters that may not start a plain scalar. -/
def leadingIndicators : List Char :=
  ['#', ',', '[', ']', '{', '}', '&', '*', '!', '|', '>', '\'', '"', '%', '@', '`']

/-- Analyses a text for the styles it may be written in (in block context). -/
def analyze (s : String) : Allowed :=
  let cs := s.toList
  if cs.isEmpty then ⟨false, true, true, false⟩
  else
    let arr := cs.toArray
    let n := arr.size
    let blankzAt (i : Nat) : Bool := match arr[i]? with
      | some c => isBlank c || isBreak c
      | none => true
    let documentMarker := (cs.take 3 == ['-', '-', '-']) || (cs.take 3 == ['.', '.', '.'])
    let step := fun (acc : Bool × Bool × Bool × Bool × Bool × Bool × Bool × Bool × Bool × Bool × Bool × Bool × Bool) (i : Nat) =>
      let (blockInd, special, lineBreaks, leadSpace, leadBreak, trailSpace, trailBreak,
           breakSpace, spaceBreak, prevSpace, prevBreak, precededByWs, _) := acc
      let c := arr[i]?.getD ' '
      let followedByWs := blankzAt (i + 1)
      let blockInd := blockInd ||
        (if i == 0 then
          leadingIndicators.contains c || ((c == '?' || c == ':') && followedByWs) ||
            (c == '-' && followedByWs)
        else (c == ':' && followedByWs) || (c == '#' && precededByWs))
      let special := special || !isPrintable c
      let lineBreaks := lineBreaks || isBreak c
      let (leadSpace, trailSpace, breakSpace, leadBreak, trailBreak, spaceBreak, prevSpace, prevBreak) :=
        if c == ' ' then
          (leadSpace || i == 0, trailSpace || i + 1 == n, breakSpace || prevBreak,
           leadBreak, trailBreak, spaceBreak, true, false)
        else if isBreak c then
          (leadSpace, trailSpace, breakSpace, leadBreak || i == 0, trailBreak || i + 1 == n,
           spaceBreak || prevSpace, false, true)
        else (leadSpace, trailSpace, breakSpace, leadBreak, trailBreak, spaceBreak, false, false)
      (blockInd, special, lineBreaks, leadSpace, leadBreak, trailSpace, trailBreak,
       breakSpace, spaceBreak, prevSpace, prevBreak, isBlank c || isBreak c, false)
    let (blockInd, special, lineBreaks, leadSpace, leadBreak, trailSpace, trailBreak,
         breakSpace, spaceBreak, _, _, _, _) :=
      (List.range n).foldl step
        (documentMarker, false, false, false, false, false, false, false, false, false, false, true, false)
    let plain := !(leadSpace || leadBreak || trailSpace || trailBreak || breakSpace ||
      spaceBreak || special || lineBreaks || blockInd)
    let single := !(breakSpace || spaceBreak || special)
    let block := !(trailSpace || spaceBreak || special)
    ⟨lineBreaks, plain, single, block⟩

/-- The style a string asks for before analysis: a literal block for text with a line
feed, single quotes for text that would read back as another kind of value, and
`none` to leave it to the analysis. -/
def requestedStyle (s : String) : Option WriteStyle :=
  if s.toList.contains '\n' then some .literal
  else if plainDescription s != stringDescription s || digitsButNotNumber s then
    some .singleQuoted
  else none

/-- The style a string value is written in. -/
def chooseStyle (s : String) : WriteStyle :=
  let a := analyze s
  let style := (requestedStyle s).getD .plain
  let style := if style == .plain && (!a.blockPlain || s.isEmpty) then .singleQuoted else style
  let style := if style == .singleQuoted && !a.singleQuoted then .doubleQuoted else style
  if style == .literal && !a.block then .doubleQuoted else style

/-- Uppercase hexadecimal digits of a number, padded to a width. -/
def hexPadded (width value : Nat) : String :=
  let digits := (Nat.toDigits 16 value).map Char.toUpper
  String.ofList (List.replicate (width - digits.length) '0' ++ digits)

/-- One character inside double quotes. -/
def doubleQuotedChar (c : Char) : String :=
  let n := c.toNat
  if isPrintable c && !isBreak c && n != 0xFEFF && c != '"' && c != '\\' then String.singleton c
  else
    "\\" ++
      match n with
      | 0x00 => "0"
      | 0x07 => "a"
      | 0x08 => "b"
      | 0x09 => "t"
      | 0x0A => "n"
      | 0x0B => "v"
      | 0x0C => "f"
      | 0x0D => "r"
      | 0x1B => "e"
      | 0x22 => "\""
      | 0x5C => "\\"
      | 0x85 => "N"
      | 0xA0 => "_"
      | 0x2028 => "L"
      | 0x2029 => "P"
      | _ =>
          if n ≤ 0xFF then "x" ++ hexPadded 2 n
          else if n ≤ 0xFFFF then "u" ++ hexPadded 4 n
          else "U" ++ hexPadded 8 n

/-- A line break as written: a line feed as itself, other breaks as themselves too. -/
def breakText (c : Char) : String := String.singleton c

/-- Text in single quotes, indented by `indent` after line breaks. -/
def singleQuotedText (indent : Nat) (s : String) : String :=
  let pad := String.ofList (List.replicate indent ' ')
  let (out, breaks) := s.toList.foldl (fun (acc : String × Bool) c =>
    let (out, breaks) := acc
    if isBreak c then
      ((if !breaks && c == '\n' then out.push '\n' else out) ++ breakText c, true)
    else
      let out := if breaks then out ++ pad else out
      (out ++ (if c == '\'' then "''" else String.singleton c), false)) ("'", false)
  (if breaks then out ++ pad else out) ++ "'"

/-- The header hints of a literal block: an indentation indicator when the text starts
with a space or break, and a chomping indicator, `-` when the text does not end in a
break and `+` when it ends in two or stands alone as one.  Also tells whether the
block keeps trailing lines. -/
def literalHints (indentStep : Nat) (s : String) : String × Bool :=
  let cs := s.toList
  let indentHint := match cs.head? with
    | some c => if c == ' ' || isBreak c then toString indentStep else ""
    | none => ""
  match cs.reverse with
  | [] => (indentHint ++ "-", false)
  | [c] => if isBreak c then (indentHint ++ "+", true) else (indentHint ++ "-", false)
  | c :: d :: _ =>
      if !isBreak c then (indentHint ++ "-", false)
      else if isBreak d then (indentHint ++ "+", true)
      else (indentHint, false)

/-- The lines of a literal block after its header, each content line indented. -/
def literalBody (indent : Nat) (s : String) : String :=
  let pad := String.ofList (List.replicate indent ' ')
  let (out, _) := s.toList.foldl (fun (acc : String × Bool) c =>
    let (out, breaks) := acc
    if isBreak c then (out ++ breakText c, true)
    else ((if breaks then out ++ pad else out).push c, false)) ("", true)
  out

/-- One `key: value` entry of a block mapping at the left margin, with its line end,
and whether the value leaves the document open-ended. -/
def stringEntry (key value : String) : String × Bool :=
  match chooseStyle value with
  | .plain => (key ++ ": " ++ value ++ "\n", false)
  | .singleQuoted => (key ++ ": " ++ singleQuotedText 2 value ++ "\n", false)
  | .doubleQuoted =>
      (key ++ ": \"" ++ String.join (value.toList.map doubleQuotedChar) ++ "\"\n", false)
  | .literal =>
      let (hints, keeps) := literalHints 2 value
      let body := literalBody 2 value
      let endsInBreak := match value.toList.getLast? with
        | some c => isBreak c
        | none => false
      (key ++ ": |" ++ hints ++ "\n" ++ body ++ (if endsInBreak then "" else "\n"), keeps)

/-- An entry whose value is written plain as it is (numbers and booleans). -/
def plainEntry (key value : String) : String × Bool := (key ++ ": " ++ value ++ "\n", false)

/-- A block mapping from its entries; an open-ended one is closed with `...`. -/
def mappingText (entries : List (String × Bool)) : String :=
  String.join (entries.map (·.1)) ++ (if entries.any (·.2) then "...\n" else "")

end BuildWorker.Yaml
