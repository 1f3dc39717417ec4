import BuildWorker.Text.Decimal
import BuildWorker.Text.Escaped

/-!
# JSON values

A JSON document as the worker sees it.  Numbers keep the kind the reader gave them:
a non-negative integer that fits 64 bits, a negative one that fits 64 signed bits, or a
double.  The kind matters because a field that wants an unsigned integer refuses a
double with the same value, and messages name the kind they saw.

Objects keep their entries in order, duplicates included: a reader that keeps the last
entry for a key, or refuses duplicates, decides that for itself.

The printer writes the compact form used on the wire: no spaces, strings with `"`, `\`
and the control characters escaped.
-/

set_option autoImplicit false

namespace BuildWorker.Json

/-- A number, in the kind the reader produced. -/
inductive Number where
  /-- An integer in `[0, 2^64)`. -/
  | unsigned (n : Nat)
  /-- An integer in `[-2^63, 0)`. -/
  | signed (n : Int)
  /-- Anything else: a fraction, an exponent, or an integer out of range. -/
  | float (f : Float)

/-- A JSON value. -/
inductive Value where
  | null
  | bool (b : Bool)
  | number (n : Number)
  | string (s : String)
  | array (items : List Value)
  | object (entries : List (String × Value))

instance : Inhabited Value := ⟨.null⟩

/-- How a message names a number it refuses. -/
def Number.describe : Number → String
  | .unsigned n => "integer `" ++ toString n ++ "`"
  | .signed n => "integer `" ++ toString n ++ "`"
  | .float f => "floating point `" ++ Text.floatReaderText f ++ "`"

/-- How a message names a value it refuses: by kind, with the scalar shown. -/
def Value.describe : Value → String
  | .null => "null"
  | .bool b => "boolean `" ++ toString b ++ "`"
  | .number n => n.describe
  | .string s => "string " ++ Text.quoted s
  | .array _ => "sequence"
  | .object _ => "map"

/-- Four lower-case hexadecimal digits. -/
def hex4 (n : Nat) : String :=
  let d := Nat.toDigits 16 n
  String.ofList (List.replicate (4 - d.length) '0' ++ d)

/-- One character of a string on the wire. -/
def escapeChar (c : Char) : String :=
  match c with
  | '"' => "\\\""
  | '\\' => "\\\\"
  | '\n' => "\\n"
  | '\r' => "\\r"
  | '\t' => "\\t"
  | c =>
      if c.toNat == 8 then "\\b"
      else if c.toNat == 12 then "\\f"
      else if c.toNat < 0x20 then "\\u" ++ hex4 c.toNat
      else String.singleton c

/-- A string on the wire, quoted and escaped. -/
def renderString (s : String) : String :=
  "\"" ++ String.join (s.toList.map escapeChar) ++ "\""

/-- A number on the wire. -/
def Number.render : Number → String
  | .unsigned n => toString n
  | .signed n => toString n
  | .float f => Text.floatReaderText f

/-- A value on the wire, compact. -/
def Value.render : Value → String
  | .null => "null"
  | .bool b => toString b
  | .number n => n.render
  | .string s => renderString s
  | .array items => "[" ++ ",".intercalate (renderItems items) ++ "]"
  | .object entries => "\x7b" ++ ",".intercalate (renderEntries entries) ++ "\x7d"
where
  renderItems : List Value → List String
    | [] => []
    | v :: rest => v.render :: renderItems rest
  renderEntries : List (String × Value) → List String
    | [] => []
    | (k, v) :: rest => (renderString k ++ ":" ++ v.render) :: renderEntries rest

/-- The entry of an object for a key, the last one if the key repeats. -/
def lookup (entries : List (String × Value)) (key : String) : Option Value :=
  (entries.reverse.find? (·.1 == key)).map (·.2)

end BuildWorker.Json
