import BuildWorker.Text.Utf8
import BuildWorker.Text.Case
/-!
# Shell variables

A shell variable holds nothing yet (declared only), a text, an indexed array or an
associative array, and carries attributes: exported, integer, read-only, case-folding,
and name reference.

*Indexed arrays* are sparse: elements by index, kept in increasing order.  A negative
subscript counts back from one past the highest index.

*Associative arrays* keep their elements in a hash table of 1024 buckets, and list them
in the table's order: bucket by bucket, and within a bucket the newest key first.  A
key's bucket is the low ten bits of its 32-bit FNV-1 hash, taken over its UTF-8 bytes
read as signed characters.  The elements are stored in insertion order; the listing
order is computed from it, so it is fixed by the keys and the order they came in.

The quoting forms used when variables are listed are here too: double quotes with
`\"`, `\\`, `\$` and a backslash before a backquote, and `$'...'` for text with
characters that do not print.
-/

namespace BuildWorker.Shell

/-! ## Values -/

/-- What a variable holds. -/
inductive VarValue where
  /-- Declared without a value. -/
  | none
  | scalar (s : String)
  /-- Elements by index, increasing. -/
  | indexed (items : List (Nat × String))
  /-- Elements by key, in insertion order. -/
  | assoc (items : List (String × String))
  deriving DecidableEq, Repr, Inhabited

/-- A shell variable: its value and attributes. -/
structure Variable where
  value : VarValue := .none
  exported : Bool := false
  integer : Bool := false
  readOnly : Bool := false
  lower : Bool := false
  upper : Bool := false
  nameref : Bool := false
  /-- Declared as an array and never assigned: listed without a value. -/
  declaredOnly : Bool := false
  deriving DecidableEq, Repr, Inhabited

/-! ## Associative order -/

/-- The 32-bit FNV-1 hash of a key, over its UTF-8 bytes read as signed characters. -/
def keyHash (key : String) : UInt32 :=
  (Text.encode key).foldl (fun h b =>
    let signed : UInt32 := if b ≥ 128 then 0xFFFFFF00 ||| b.toUInt32 else b.toUInt32
    (h * 16777619) ^^^ signed) 2166136261

/-- The bucket of a key in a table of 1024 buckets. -/
def keyBucket (key : String) : Nat := (keyHash key).toNat % 1024

/-- Elements stored in insertion order, listed in the table's order. -/
def assocOrder (items : List (String × String)) : List (String × String) :=
  let ranked := items.zipIdx.map fun (kv, i) => (keyBucket kv.1, i, kv)
  (ranked.mergeSort fun a b => a.1 < b.1 || (a.1 == b.1 && a.2.1 ≥ b.2.1)).map (·.2.2)

/-! ## Indexed arrays -/

/-- Sets an element, keeping the indices in order. -/
def setIndexed (items : List (Nat × String)) (i : Nat) (v : String) : List (Nat × String) :=
  let before := items.filter (·.1 < i)
  let after := items.filter (·.1 > i)
  before ++ [(i, v)] ++ after

/-- One past the highest index, where the next appended element goes. -/
def nextIndex (items : List (Nat × String)) : Nat :=
  match items.getLast? with
  | some (i, _) => i + 1
  | none => 0

/-- Sets a key, keeping its place when it is there already. -/
def setAssoc (items : List (String × String)) (k v : String) : List (String × String) :=
  if items.any (·.1 == k) then items.map fun (k', old) => if k' == k then (k', v) else (k', old)
  else items ++ [(k, v)]

/-! ## Reading -/

namespace Variable

/-- The text a variable stands for as a plain parameter: a text, or the element at
index 0 (key `0`). -/
def text? (v : Variable) : Option String :=
  match v.value with
  | .none => none
  | .scalar s => some s
  | .indexed items => items.lookup 0
  | .assoc items => items.lookup "0"

/-- Whether a variable is an array of either kind. -/
def isArray (v : Variable) : Bool :=
  match v.value with
  | .indexed _ | .assoc _ => true
  | _ => false

/-- Whether a variable is an associative array. -/
def isAssoc (v : Variable) : Bool :=
  match v.value with
  | .assoc _ => true
  | _ => false

/-- The elements of a variable in order; a text is one element. -/
def elements (v : Variable) : List String :=
  match v.value with
  | .none => []
  | .scalar s => [s]
  | .indexed items => items.map (·.2)
  | .assoc items => (assocOrder items).map (·.2)

/-- The indices or keys of a variable, in order. -/
def keys (v : Variable) : List String :=
  match v.value with
  | .none => []
  | .scalar _ => ["0"]
  | .indexed items => items.map (toString ·.1)
  | .assoc items => (assocOrder items).map (·.1)

/-- The letters of a variable's attributes, in the order `declare` lists them. -/
def flags (v : Variable) : String :=
  let kind := match v.value with
    | .indexed _ => "a"
    | .assoc _ => "A"
    | _ => ""
  kind ++ (if v.integer then "i" else "") ++ (if v.lower then "l" else "") ++
    (if v.nameref then "n" else "") ++ (if v.readOnly then "r" else "") ++
    (if v.upper then "u" else "") ++ (if v.exported then "x" else "")

end Variable

/-! ## Quoting for listings -/

/-- Whether a character prints: not a control character. -/
def isPrintable (c : Char) : Bool :=
  let n := c.toNat
  n ≥ 32 && n != 127 && !(128 ≤ n && n < 160)

/-- Whether a text needs `$'...'` to be written back. -/
def needsAnsiQuotes (s : String) : Bool := s.any (!isPrintable ·)

/-- A character inside `$'...'`. -/
def ansiEscape (c : Char) : String :=
  match c.toNat with
  | 7 => "\\a"
  | 8 => "\\b"
  | 9 => "\\t"
  | 10 => "\\n"
  | 11 => "\\v"
  | 12 => "\\f"
  | 13 => "\\r"
  | 27 => "\\E"
  | 39 => "\\'"
  | 92 => "\\\\"
  | _ =>
      if isPrintable c then c.toString
      else
        String.join ((Text.encode c.toString).map fun b =>
          let n := b.toNat
          "\\" ++ toString (n / 64) ++ toString (n / 8 % 8) ++ toString (n % 8))

/-- A text as `$'...'`. -/
def ansiQuote (s : String) : String := "$'" ++ String.join (s.toList.map ansiEscape) ++ "'"

/-- A text in double quotes, with a backslash before `"`, `\`, `$` and the backquote. -/
def doubleQuote (s : String) : String :=
  "\"" ++ String.join (s.toList.map fun c =>
    if c == '"' || c == '\\' || c == '$' || c == '\x60' then "\\" ++ c.toString
    else c.toString) ++ "\""

/-- A text in single quotes, a single quote inside written `'\''`; a lone single quote
is `\'`. -/
def singleQuote (s : String) : String :=
  if s == "'" then "\\'"
  else "'" ++ String.join (s.toList.map fun c => if c == '\'' then "'\\''" else c.toString) ++ "'"

/-- A value as a listing writes it: `$'...'` when needed, else double quotes. -/
def listingQuote (s : String) : String :=
  if needsAnsiQuotes s then ansiQuote s else doubleQuote s

/-- Whether a word needs quotes to be read back as one word: it has a blank, a quote, an
operator, a pattern or expansion character, a `~` where it would expand, or a leading
`#`. -/
def containsShellMetas (w : String) : Bool :=
  let cs := w.toList
  (cs.zipIdx.any fun (c, i) =>
    " \t\n'\"\\|&;()<>!\x7b\x7d*[?]^$".toList.contains c || c == '\x60' ||
    (c == '~' && (i == 0 || cs[i - 1]? == some '=' || cs[i - 1]? == some ':'))) ||
  cs.head? == some '#'

/-- The body of an array assignment as `declare -p` writes it: `([0]="a" [1]="b")`, and
for an associative array `([k]="v" )`, with a space after every element. -/
def Variable.arrayBody (v : Variable) : String :=
  match v.value with
  | .indexed items =>
      "(" ++ " ".intercalate (items.map fun (i, s) => "[" ++ toString i ++ "]=" ++ listingQuote s) ++ ")"
  | .assoc items =>
      let key (k : String) : String :=
        if needsAnsiQuotes k then ansiQuote k
        else if containsShellMetas k || k == "@" || k == "*" then doubleQuote k
        else k
      "(" ++ String.join ((assocOrder items).map fun (k, s) => "[" ++ key k ++ "]=" ++ listingQuote s ++ " ") ++ ")"
  | _ => ""

end BuildWorker.Shell
