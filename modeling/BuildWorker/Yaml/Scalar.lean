import BuildWorker.Yaml.Scanner
import BuildWorker.Text.ReadFloat
import BuildWorker.Text.Decimal
import BuildWorker.Text.Escaped
/-!
# What a scalar stands for

A plain scalar without a tag is resolved by its text: empty or a null word is null,
the boolean words are booleans, integers are read in decimal or with a `0x`, `0o` or
`0b` prefix, and number-like text is a double.  Quoted scalars are strings.  A tag
from the core schema (`!!bool`, `!!int`, `!!float`, `!!null`) asks for that kind and
makes other text an invalid value.

Numbers with a leading zero followed only by digits (`012`) are strings: that is the
YAML 1.2 rule, which keeps identifiers such as ZIP codes intact.

The resolution matters in two places: reading a field that wants a number or a
boolean, and wording the error when a scalar is not what a field wants.
-/

set_option autoImplicit false

namespace BuildWorker.Yaml

/-- The null words. -/
def isNullWord (text : String) : Bool :=
  text == "~" || text == "null" || text == "Null" || text == "NULL"

/-- The boolean words. -/
def boolWord? (text : String) : Option Bool :=
  if text == "true" || text == "True" || text == "TRUE" then some true
  else if text == "false" || text == "False" || text == "FALSE" then some false
  else none

/-- Leading zeros followed only by digits, after an optional sign: text that looks
numeric but is a string. -/
def digitsButNotNumber (text : String) : Bool :=
  let cs := match text.toList with
    | '+' :: rest | '-' :: rest => rest
    | cs => cs
  match cs with
  | '0' :: rest => !rest.isEmpty && rest.all Char.isDigit
  | _ => false

/-- The value of a digit in a radix up to 36. -/
def digitIn (radix : Nat) (c : Char) : Option Nat :=
  let v :=
    if c.isDigit then some (c.toNat - 48)
    else if 'a' ≤ c && c ≤ 'z' then some (c.toNat - 87)
    else if 'A' ≤ c && c ≤ 'Z' then some (c.toNat - 55)
    else none
  v.bind fun d => if d < radix then some d else none

/-- The magnitude of a string of digits, if every character is a digit. -/
def digitsIn (radix : Nat) (cs : List Char) : Option Nat :=
  cs.foldlM (fun acc c => (digitIn radix c).map fun d => acc * radix + d) 0

/-- Reads an integer the standard way, in a given radix and range `[low, high]`: an
optional sign (a `-` only where negative numbers exist) and at least one digit. -/
def readInteger (text : String) (radix : Nat) (low : Int) (high : Nat) : Option Int :=
  let signed := low < 0
  let parsed : Option Int := match text.toList with
    | [] => none
    | ['+'] | ['-'] => none
    | '+' :: rest => (digitsIn radix rest).map Int.ofNat
    | '-' :: rest => if signed then (digitsIn radix rest).map fun n => -(n : Int) else none
    | cs => (digitsIn radix cs).map Int.ofNat
  parsed.bind fun v => if low ≤ v && v ≤ (high : Int) then some v else none

/-- An unsigned integer at most `high`: an optional `+`, then a `0x`, `0o` or `0b`
prefix with digits in that radix, or decimal digits without a leading zero. -/
def readUnsigned (text : String) (high : Nat) : Option Nat :=
  let unpositive := if text.startsWith "+" then String.ofList (text.toList.drop 1) else text
  let prefixed : List (String × Nat) := [("0x", 16), ("0o", 8), ("0b", 2)]
  let viaPrefix : Option (Option Nat) := prefixed.findSome? fun (pre, radix) =>
    if unpositive.startsWith pre then
      let rest := String.ofList (unpositive.toList.drop 2)
      if rest.startsWith "+" || rest.startsWith "-" then some none
      else (readInteger rest radix 0 high).map fun v => some v.toNat
    else none
  match viaPrefix with
  | some result => result
  | none =>
      if unpositive.startsWith "+" || unpositive.startsWith "-" then none
      else if digitsButNotNumber text then none
      else (readInteger unpositive 10 0 high).map Int.toNat

/-- A negative (or signed) integer in `[low, high]`: `-0x`, `-0o` or `-0b` with digits,
or signed decimal digits without a leading zero. -/
def readSigned (text : String) (low : Int) (high : Nat) : Option Int :=
  let prefixed : List (String × Nat) := [("-0x", 16), ("-0o", 8), ("-0b", 2)]
  let viaPrefix := prefixed.findSome? fun (pre, radix) =>
    if text.startsWith pre then
      readInteger ("-" ++ String.ofList (text.toList.drop 3)) radix low high
    else none
  match viaPrefix with
  | some v => some v
  | none => if digitsButNotNumber text then none else readInteger text 10 low high

/-- A double written as YAML writes one: `.inf`, `-.inf` and `.nan` in their three
spellings, or standard decimal text; only finite values count, so `1e999` is text. -/
def readYamlFloat (text : String) : Option Float :=
  let unpositive? :=
    if text.startsWith "+" then
      let rest := String.ofList (text.toList.drop 1)
      if rest.startsWith "+" || rest.startsWith "-" then none else some rest
    else some text
  match unpositive? with
  | none => none
  | some unpositive =>
      if unpositive == ".inf" || unpositive == ".Inf" || unpositive == ".INF" then
        some Text.positiveInfinity
      else if text == "-.inf" || text == "-.Inf" || text == "-.INF" then
        some (-Text.positiveInfinity)
      else if text == ".nan" || text == ".NaN" || text == ".NAN" then some (0.0 / 0.0)
      else
        match Text.readFloat unpositive with
        | some f => if f.isNaN || f.isInf then none else some f
        | none => none

/-- The largest value of 64 and 128 bits, and the least of signed ones. -/
def u64Max : Nat := Nat.pow 2 64 - 1
def u128Max : Nat := Nat.pow 2 128 - 1
def i64Min : Int := -(Int.pow 2 63)
def i128Min : Int := -(Int.pow 2 127)

/-- How an integer that a value does not accept is described: within 64 bits plainly,
beyond that with the width it was read at. -/
def integerDescription? (text : String) : Option String :=
  match readUnsigned text u64Max with
  | some n => some ("integer `" ++ toString n ++ "`")
  | none =>
  match readSigned text i64Min (Nat.pow 2 63 - 1) with
  | some n => some ("integer `" ++ toString n ++ "`")
  | none =>
  match readUnsigned text u128Max with
  | some n => some ("integer `" ++ toString n ++ "` as u128")
  | none =>
  match readSigned text i128Min (Nat.pow 2 127 - 1) with
  | some n => some ("integer `" ++ toString n ++ "` as i128")
  | none => none

/-- A string as messages show it. -/
def stringDescription (text : String) : String := "string " ++ Text.quoted text

/-- A double as messages show it. -/
def floatDescription (f : Float) : String :=
  "floating point `" ++ Text.floatPositionalText f ++ "`"

/-- What an untagged plain scalar stands for, as messages describe it. -/
def plainDescription (text : String) : String :=
  if text.isEmpty || isNullWord text then "unit value"
  else match boolWord? text with
  | some b => "boolean `" ++ toString b ++ "`"
  | none =>
  match integerDescription? text with
  | some d => d
  | none =>
      match (if digitsButNotNumber text then none else readYamlFloat text) with
      | some f => floatDescription f
      | none => stringDescription text

/-- The core-schema tags. -/
def boolTag : String := "tag:yaml.org,2002:bool"
def intTag : String := "tag:yaml.org,2002:int"
def floatTag : String := "tag:yaml.org,2002:float"
def nullTag : String := "tag:yaml.org,2002:null"

/-- The message for a scalar that a value expecting `expected` does not accept: an
invalid type, or, under a core-schema tag whose kind the text does not fit, an invalid
value. -/
def scalarMismatch (text : String) (style : ScalarStyle) (tag : Option String)
    (expected : String) : String :=
  let wrongType (what : String) := "invalid type: " ++ what ++ ", expected " ++ expected
  let wrongValue (what : String) := "invalid value: " ++ stringDescription text ++ ", expected " ++ what
  match tag with
  | some t =>
      if t == boolTag then
        match boolWord? text with
        | some b => wrongType ("boolean `" ++ toString b ++ "`")
        | none => wrongValue "a boolean"
      else if t == intTag then
        match integerDescription? text with
        | some d => wrongType d
        | none => wrongValue "an integer"
      else if t == floatTag then
        match readYamlFloat text with
        | some f => wrongType (floatDescription f)
        | none => wrongValue "a float"
      else if t == nullTag then
        if isNullWord text then wrongType "unit value" else wrongValue "null"
      else if t.startsWith "!" && style == .plain then wrongType (plainDescription text)
      else wrongType (stringDescription text)
  | none =>
      if style == .plain then wrongType (plainDescription text)
      else wrongType (stringDescription text)

end BuildWorker.Yaml
