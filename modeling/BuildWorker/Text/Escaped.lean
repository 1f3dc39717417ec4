/-!
# Quoted text in messages

Messages that reject a string show it between double quotes, with the characters that
would be ambiguous or invisible written as escapes: the quote and the backslash, the
usual control escapes, and `\u{…}` with the hexadecimal code point for the remaining
control characters and for the invisible format characters that would otherwise merge
with their neighbours.
-/

namespace BuildWorker.Text

/-- Lower-case hexadecimal digits of a number, without leading zeros. -/
def hexDigits (n : Nat) : String :=
  String.ofList (Nat.toDigits 16 n)

/-- Whether a character is written as a `\u{…}` escape: control characters, and the
invisible marks that attach to the previous character (combining marks, joiners,
variation selectors and the like). -/
def isEscapedInQuote (c : Char) : Bool :=
  let n := c.toNat
  n < 0x20 || (0x7F ≤ n && n ≤ 0x9F) || n == 0xAD ||
  (0x300 ≤ n && n ≤ 0x36F) || (0x483 ≤ n && n ≤ 0x489) ||
  (0x200B ≤ n && n ≤ 0x200F) || (0x2028 ≤ n && n ≤ 0x202E) ||
  (0x2060 ≤ n && n ≤ 0x2064) || (0x20D0 ≤ n && n ≤ 0x20F0) ||
  (0xFE00 ≤ n && n ≤ 0xFE0F) || (0xFE20 ≤ n && n ≤ 0xFE2F) || n == 0xFEFF ||
  (0xE0000 ≤ n && n ≤ 0xE0FFF)

/-- One character inside a quoted string. -/
def quoteChar (c : Char) : String :=
  match c with
  | '\t' => "\\t"
  | '\r' => "\\r"
  | '\n' => "\\n"
  | '\\' => "\\\\"
  | '"' => "\\\""
  | c =>
      if c.toNat == 0 then "\\0"
      else if isEscapedInQuote c then "\\u" ++ "\x7b" ++ hexDigits c.toNat ++ "\x7d"
      else String.singleton c

/-- A string between double quotes, escaped for a message. -/
def quoted (s : String) : String :=
  "\"" ++ String.join (s.toList.map quoteChar) ++ "\""

end BuildWorker.Text
