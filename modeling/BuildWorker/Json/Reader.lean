import BuildWorker.Json.Value
import BuildWorker.Text.Utf8

/-!
# Reading JSON text

A reader walks the bytes of a JSON text with a cursor and reports the first thing that
is wrong, with its line and column.  Readers for particular shapes (a string, an
unsigned number, a record with named fields) are built from the primitives here, and
each reports a value of the wrong shape in the same words: what it saw, and what it
expected.

## Where an error is placed

Lines count from one, columns count bytes from the start of the line.  A syntax error
is placed either at the cursor (after the byte that was wrong, when that byte had to be
consumed to know) or one byte ahead of it (when the wrong byte was only looked at).
An error about the *meaning* of a value (wrong type, missing field, duplicate field)
is raised without a place, and the nearest enclosing shape reader gives it the cursor's
place when it finishes, after any closing bracket it was about to check.  That is why a
missing field is reported at the end of its record.

## Nesting

Every bracket that opens a nested value uses up one level of a budget of 128; the
129th nested bracket is refused.  Values that are skipped rather than read have no such
budget.

## Numbers

Integers are read into 64 bits as long as they fit; past that, and for fractions and
exponents, the digits kept so far are turned into a double and scaled by powers of ten,
each power the double nearest to it.  A result too large for a double is refused.
-/

set_option autoImplicit false

namespace BuildWorker.Json

/-- The syntax errors of the reader. -/
inductive ErrorCode where
  | eofWhileParsingList
  | eofWhileParsingObject
  | eofWhileParsingString
  | eofWhileParsingValue
  | expectedColon
  | expectedListCommaOrEnd
  | expectedObjectCommaOrEnd
  | expectedSomeIdent
  | expectedSomeValue
  | invalidEscape
  | invalidNumber
  | numberOutOfRange
  | controlCharacterInString
  | keyMustBeAString
  | loneLeadingSurrogate
  | trailingComma
  | trailingCharacters
  | unexpectedEndOfHexEscape
  | recursionLimitExceeded
  deriving DecidableEq, Repr

/-- The words of a syntax error. -/
def ErrorCode.message : ErrorCode → String
  | .eofWhileParsingList => "EOF while parsing a list"
  | .eofWhileParsingObject => "EOF while parsing an object"
  | .eofWhileParsingString => "EOF while parsing a string"
  | .eofWhileParsingValue => "EOF while parsing a value"
  | .expectedColon => "expected `:`"
  | .expectedListCommaOrEnd => "expected `,` or `]`"
  | .expectedObjectCommaOrEnd => "expected `,` or `\x7d`"
  | .expectedSomeIdent => "expected ident"
  | .expectedSomeValue => "expected value"
  | .invalidEscape => "invalid escape"
  | .invalidNumber => "invalid number"
  | .numberOutOfRange => "number out of range"
  | .controlCharacterInString =>
      "control character (\\u0000-\\u001F) found while parsing a string"
  | .keyMustBeAString => "key must be a string"
  | .loneLeadingSurrogate => "lone leading surrogate in hex escape"
  | .trailingComma => "trailing comma"
  | .trailingCharacters => "trailing characters"
  | .unexpectedEndOfHexEscape => "unexpected end of hex escape"
  | .recursionLimitExceeded => "recursion limit exceeded"

/-- An error of the reader: its words, and its line and column once placed. -/
structure ReadError where
  message : String
  place : Option (Nat × Nat)
  deriving DecidableEq, Repr

/-- An error as shown to a person. -/
def ReadError.render (e : ReadError) : String :=
  match e.place with
  | some (line, column) => e.message ++ " at line " ++ toString line ++ " column " ++ toString column
  | none => e.message

/-- An error about the meaning of a value, not yet placed. -/
def ReadError.unplaced (message : String) : ReadError := ⟨message, none⟩

/-- A value of the wrong kind. -/
def invalidType (seen expected : String) : ReadError :=
  .unplaced ("invalid type: " ++ seen ++ ", expected " ++ expected)

/-- A value of the right kind out of range. -/
def invalidValue (seen expected : String) : ReadError :=
  .unplaced ("invalid value: " ++ seen ++ ", expected " ++ expected)

/-- A sequence of the wrong length. -/
def invalidLength (length : Nat) (expected : String) : ReadError :=
  .unplaced ("invalid length " ++ toString length ++ ", expected " ++ expected)

/-- The cursor over a text: its bytes, the offset of the next byte, and the nesting
levels still allowed. -/
structure Cursor where
  bytes : ByteArray
  offset : Nat
  levels : Nat

/-- A reader: it moves the cursor, and may stop with an error.  The cursor keeps its
place when an error stops a reader, so that the enclosing reader can still look at
what follows. -/
abbrev Reader := ExceptT ReadError (StateM Cursor)

/-- The cursor at the start of a text. -/
def Cursor.start (text : String) : Cursor := ⟨text.toUTF8, 0, 128⟩

/-- The line and column of a byte offset: lines from one, columns in bytes. -/
def positionOf (bytes : ByteArray) (offset : Nat) : Nat × Nat :=
  (bytes.toList.take offset).foldl
    (fun (acc : Nat × Nat) (b : UInt8) => if b == 10 then (acc.1 + 1, 0) else (acc.1, acc.2 + 1))
    (1, 0)

/-- A byte as a number, for matching. -/
def code (c : Char) : UInt8 := c.toNat.toUInt8

/-- Whether a byte is a decimal digit. -/
def isDigit (b : UInt8) : Bool := 48 ≤ b && b ≤ 57

/-- The value of a digit byte. -/
def digitValue (b : UInt8) : Nat := b.toNat - 48

/-- Runs a reader and reports its result or its error, keeping the cursor where the
reader left it. -/
def attempt {α : Type} (x : Reader α) : Reader (Except ReadError α) :=
  tryCatch (Except.ok <$> x) (fun e => pure (Except.error e))

/-- The next byte, not consumed. -/
def peekByte : Reader (Option UInt8) := do
  let c ← get
  pure c.bytes[c.offset]?

/-- Consumes one byte. -/
def bump : Reader Unit :=
  modify fun c => { c with offset := c.offset + 1 }

/-- The next byte, consumed. -/
def nextByte : Reader (Option UInt8) := do
  let b ← peekByte
  if b.isSome then bump
  pure b

/-- A syntax error at the cursor. -/
def errorHere (c : ErrorCode) : Reader ReadError := do
  let s ← get
  pure ⟨c.message, some (positionOf s.bytes s.offset)⟩

/-- A syntax error one byte ahead of the cursor (at most at the end). -/
def errorAhead (c : ErrorCode) : Reader ReadError := do
  let s ← get
  pure ⟨c.message, some (positionOf s.bytes (min (s.offset + 1) s.bytes.size))⟩

/-- Stops with a syntax error at the cursor. -/
def failHere {α : Type} (c : ErrorCode) : Reader α := do throw (← errorHere c)

/-- Stops with a syntax error one byte ahead. -/
def failAhead {α : Type} (c : ErrorCode) : Reader α := do throw (← errorAhead c)

/-- Gives an unplaced error the cursor's place. -/
def place (e : ReadError) : Reader ReadError := do
  match e.place with
  | some _ => pure e
  | none =>
      let s ← get
      pure { e with place := some (positionOf s.bytes s.offset) }

/-- Runs a shape reader; an error it raises without a place gets the place where the
reader stopped. -/
def placing {α : Type} (x : Reader α) : Reader α := do
  match ← attempt x with
  | .ok v => pure v
  | .error e => throw (← place e)

/-- A bound on the steps of any loop over the rest of the text: each step consumes a
byte. -/
def stepsLeft : Reader Nat := do
  let c ← get
  pure (c.bytes.size - c.offset + 2)

/-- Skips spaces, tabs and line breaks for at most `n` bytes; the byte after them. -/
def skipSpaceFor : Nat → Reader (Option UInt8)
  | 0 => peekByte
  | n + 1 => do
      match ← peekByte with
      | some b =>
          if b == 32 || b == 10 || b == 9 || b == 13 then
            bump
            skipSpaceFor n
          else pure (some b)
      | none => pure none

/-- Skips white space; the byte after it, not consumed. -/
def skipSpace : Reader (Option UInt8) := do
  skipSpaceFor (← stepsLeft)

/-- Reads the rest of a keyword whose first byte has been consumed. -/
def expectWord (rest : String) : Reader Unit :=
  rest.toUTF8.toList.forM fun expected => do
    match ← nextByte with
    | none => failHere .eofWhileParsingValue
    | some b => if b != expected then failHere .expectedSomeIdent

/-! ## Strings -/

/-- The value of a hexadecimal digit. -/
def hexValue (b : UInt8) : Option Nat :=
  if 48 ≤ b && b ≤ 57 then some (b.toNat - 48)
  else if 97 ≤ b && b ≤ 102 then some (b.toNat - 87)
  else if 65 ≤ b && b ≤ 70 then some (b.toNat - 55)
  else none

/-- Reads the four hexadecimal digits of a `\u` escape.  Fewer than four bytes left is
the end of the text inside a string; four bytes that are not all digits are consumed
and refused. -/
def readHex4 : Reader Nat := do
  let c ← get
  if c.offset + 4 ≤ c.bytes.size then
    set { c with offset := c.offset + 4 }
    let digits := (List.range 4).map fun k => c.bytes[c.offset + k]?.bind hexValue
    match digits with
    | [some a, some b, some d, some e] => pure (((a * 16 + b) * 16 + d) * 16 + e)
    | _ => failHere .invalidEscape
  else
    set { c with offset := c.bytes.size }
    failHere .eofWhileParsingString

/-- Appends the UTF-8 bytes of a code point. -/
def pushCodePoint (acc : Array UInt8) (n : Nat) : Array UInt8 :=
  acc ++ (String.singleton (Char.ofNat n)).toUTF8.toList.toArray

/-- Reads a `\u` escape after its `u`, with its second half when it is the first half
of a surrogate pair.  Halves that do not pair are refused. -/
def readUnicodeEscape (acc : Array UInt8) : Reader (Array UInt8) := do
  let n ← readHex4
  if 0xDC00 ≤ n && n ≤ 0xDFFF then failHere .loneLeadingSurrogate
  else if n < 0xD800 || n > 0xDBFF then pure (pushCodePoint acc n)
  else
    match ← peekByte with
    | none => failHere .eofWhileParsingString
    | some b =>
        bump
        if b != code '\\' then failHere .unexpectedEndOfHexEscape
        else
          match ← peekByte with
          | none => failHere .eofWhileParsingString
          | some u =>
              bump
              if u != code 'u' then failHere .unexpectedEndOfHexEscape
              else
                let low ← readHex4
                if low < 0xDC00 || low > 0xDFFF then failHere .loneLeadingSurrogate
                else pure (pushCodePoint acc ((n - 0xD800) * 0x400 + (low - 0xDC00) + 0x10000))

/-- Reads an escape after its backslash. -/
def readEscape (acc : Array UInt8) : Reader (Array UInt8) := do
  match ← nextByte with
  | none => failHere .eofWhileParsingString
  | some b =>
      match b.toNat with
      | 34 => pure (acc.push 34)
      | 92 => pure (acc.push 92)
      | 47 => pure (acc.push 47)
      | 98 => pure (acc.push 8)
      | 102 => pure (acc.push 12)
      | 110 => pure (acc.push 10)
      | 114 => pure (acc.push 13)
      | 116 => pure (acc.push 9)
      | 117 => readUnicodeEscape acc
      | _ => failHere .invalidEscape

/-- Text from bytes that are valid UTF-8 by construction. -/
def textOfBytes (bytes : Array UInt8) : String :=
  Text.decodeLossy bytes.toList

/-- Reads the rest of a string after its opening quote, for at most `n` steps. -/
def readStringFor : Nat → Array UInt8 → Reader String
  | 0, _ => failHere .eofWhileParsingString
  | n + 1, acc => do
      match ← peekByte with
      | none => failHere .eofWhileParsingString
      | some b =>
          bump
          if b == 34 then pure (textOfBytes acc)
          else if b == 92 then
            let acc ← readEscape acc
            readStringFor n acc
          else if b < 32 then failHere .controlCharacterInString
          else readStringFor n (acc.push b)

/-- Reads the rest of a string after its opening quote. -/
def readStringBody : Reader String := do
  readStringFor (← stepsLeft) #[]

/-- Skips an escape after its backslash, checking only its form. -/
def skipEscape : Reader Unit := do
  match ← nextByte with
  | none => failHere .eofWhileParsingString
  | some b =>
      if [34, 92, 47, 98, 102, 110, 114, 116].contains b.toNat then pure ()
      else if b == code 'u' then discard readHex4
      else failHere .invalidEscape

/-- Skips the rest of a string after its opening quote, for at most `n` steps.  A
control character is refused where it stands. -/
def skipStringFor : Nat → Reader Unit
  | 0 => failHere .eofWhileParsingString
  | n + 1 => do
      match ← peekByte with
      | none => failHere .eofWhileParsingString
      | some b =>
          if b == 34 then bump
          else if b == 92 then
            bump
            skipEscape
            skipStringFor n
          else if b < 32 then failHere .controlCharacterInString
          else
            bump
            skipStringFor n

/-- Skips the rest of a string after its opening quote. -/
def skipStringBody : Reader Unit := do
  skipStringFor (← stepsLeft)

/-! ## Numbers -/

/-- The largest 64-bit unsigned integer. -/
def maxUnsigned : Nat := Nat.pow 2 64 - 1

/-- The largest 32-bit signed integer, the bound of exponents. -/
def maxExponent : Nat := Nat.pow 2 31 - 1

/-- Whether `acc * 10 + digit` would pass `limit`. -/
def wouldOverflow (acc digit limit : Nat) : Bool :=
  acc ≥ limit / 10 && (acc > limit / 10 || digit > limit % 10)

/-- The double nearest to a natural number. -/
def natToFloat (n : Nat) : Float :=
  if n < Nat.pow 2 64 then n.toUInt64.toFloat
  else
    let shift := Nat.log2 n - 63
    let top := n >>> shift
    -- Bits below the kept 64 only matter as "some", which the lowest bit records.
    let sticky := if n % Nat.pow 2 shift == 0 then 0 else 1
    Float.scaleB (top ||| sticky).toUInt64.toFloat shift

/-- `10^k`, the double nearest to it. -/
def powerOfTen (k : Nat) : Float := natToFloat (Nat.pow 10 k)

/-- Exponents stay within 32 signed bits, saturating. -/
def clampExponent (e : Int) : Int :=
  max (-(Int.pow 2 31)) (min e (Int.pow 2 31 - 1))

/-- Scales the kept digits by a power of ten.  Powers past `10^308` are taken in steps,
which only happens on the way to zero; a result too large is refused. -/
def scaleFor : Nat → Float → Int → Reader Float
  | 0, f, _ => pure f
  | n + 1, f, e =>
      if e.natAbs ≤ 308 then
        if e ≥ 0 then
          let g := f * powerOfTen e.natAbs
          if g.isInf then failHere .numberOutOfRange else pure g
        else pure (f / powerOfTen e.natAbs)
      else if f == 0 then pure f
      else if e ≥ 0 then failHere .numberOutOfRange
      else scaleFor n (f / powerOfTen 308) (e + 308)

/-- The double of kept digits and a decimal exponent, with its sign. -/
def floatOfParts (positive : Bool) (digits : Nat) (exponent : Int) : Reader Float := do
  let f ← scaleFor 8 (natToFloat digits) exponent
  pure (if positive then f else -f)

/-- Skips digits, for at most `n` steps. -/
def skipDigitsFor : Nat → Reader Unit
  | 0 => pure ()
  | n + 1 => do
      match ← peekByte with
      | some b => if isDigit b then bump; skipDigitsFor n else pure ()
      | none => pure ()

/-- Skips digits. -/
def skipDigits : Reader Unit := do skipDigitsFor (← stepsLeft)

/-- An exponent too large for 32 bits: zero, unless the number would be infinite. -/
def exponentOverflow (positive zeroDigits positiveExponent : Bool) : Reader Float := do
  if !zeroDigits && positiveExponent then failHere .numberOutOfRange
  else
    skipDigits
    pure (if positive then 0.0 else -0.0)

/-- Reads the digits of an exponent after the first, for at most `n` steps. -/
def readExponentDigitsFor : Nat → Nat → Reader (Option Nat)
  | 0, acc => pure (some acc)
  | n + 1, acc => do
      match ← peekByte with
      | some b =>
          if isDigit b then
            bump
            if wouldOverflow acc (digitValue b) maxExponent then pure none
            else readExponentDigitsFor n (acc * 10 + digitValue b)
          else pure (some acc)
      | none => pure (some acc)

/-- Reads an exponent part after its `e`. -/
def readExponent (positive : Bool) (digits : Nat) (start : Int) : Reader Float := do
  bump
  let positiveExponent ← do
    match ← peekByte with
    | some b =>
        if b == code '+' then bump; pure true
        else if b == code '-' then bump; pure false
        else pure true
    | none => pure true
  match ← nextByte with
  | none => failHere .eofWhileParsingValue
  | some b =>
      if !isDigit b then failHere .invalidNumber
      else
        match ← readExponentDigitsFor (← stepsLeft) (digitValue b) with
        | none => exponentOverflow positive (digits == 0) positiveExponent
        | some e =>
            let final := clampExponent (if positiveExponent then start + e else start - e)
            floatOfParts positive digits final

/-- After digits too many to keep: skips the rest of the fraction and reads an exponent. -/
def fractionOverflow (positive : Bool) (digits : Nat) (exponent : Int) : Reader Float := do
  skipDigits
  match ← peekByte with
  | some b =>
      if b == code 'e' || b == code 'E' then readExponent positive digits exponent
      else floatOfParts positive digits exponent
  | none => floatOfParts positive digits exponent

/-- Reads fraction digits, for at most `n` steps: the digits kept and how many were
read, or the overflow's result. -/
def readFractionFor (positive : Bool) (before : Int) :
    Nat → Nat → Nat → Reader (Sum Float (Nat × Nat))
  | 0, digits, count => pure (.inr (digits, count))
  | n + 1, digits, count => do
      match ← peekByte with
      | some b =>
          if isDigit b then
            if wouldOverflow digits (digitValue b) maxUnsigned then
              .inl <$> fractionOverflow positive digits (before - count)
            else
              bump
              readFractionFor positive before n (digits * 10 + digitValue b) (count + 1)
          else pure (.inr (digits, count))
      | none => pure (.inr (digits, count))

/-- Reads a fraction after its point; at least one digit must follow the point. -/
def readFraction (positive : Bool) (digits : Nat) (before : Int) : Reader Float := do
  bump
  match ← readFractionFor positive before (← stepsLeft) digits 0 with
  | .inl f => pure f
  | .inr (digits, count) =>
      if count == 0 then
        match ← peekByte with
        | some _ => failAhead .invalidNumber
        | none => failAhead .eofWhileParsingValue
      else
        let exponent := before - count
        match ← peekByte with
        | some b =>
            if b == code 'e' || b == code 'E' then readExponent positive digits exponent
            else floatOfParts positive digits exponent
        | none => floatOfParts positive digits exponent

/-- Reads the digits of an integer too long for 64 bits, counting them as a power of
ten, for at most `n` steps. -/
def readLongFor (positive : Bool) (digits : Nat) : Nat → Nat → Reader Float
  | 0, extra => floatOfParts positive digits extra
  | n + 1, extra => do
      match ← peekByte with
      | some b =>
          if isDigit b then
            bump
            readLongFor positive digits n (extra + 1)
          else if b == code '.' then readFraction positive digits extra
          else if b == code 'e' || b == code 'E' then readExponent positive digits extra
          else floatOfParts positive digits extra
      | none => floatOfParts positive digits extra

/-- What follows an integer's digits: a fraction, an exponent, or nothing. -/
def finishNumber (positive : Bool) (digits : Nat) : Reader Number := do
  let next ← peekByte
  if next == some (code '.') then .float <$> readFraction positive digits 0
  else if next == some (code 'e') || next == some (code 'E') then
    .float <$> readExponent positive digits 0
  else if positive then pure (.unsigned digits)
  else if digits == 0 then pure (.float (-0.0))
  else if digits ≤ Nat.pow 2 63 then pure (.signed (-(digits : Int)))
  else pure (.float (-(natToFloat digits)))

/-- Reads integer digits after the first, for at most `n` steps. -/
def readIntegerFor (positive : Bool) : Nat → Nat → Reader Number
  | 0, digits => finishNumber positive digits
  | n + 1, digits => do
      match ← peekByte with
      | some b =>
          if isDigit b then
            if wouldOverflow digits (digitValue b) maxUnsigned then
              .float <$> readLongFor positive digits (← stepsLeft) 0
            else
              bump
              readIntegerFor positive n (digits * 10 + digitValue b)
          else finishNumber positive digits
      | none => finishNumber positive digits

/-- Reads a number after its sign.  A leading zero stands alone. -/
def readNumber (positive : Bool) : Reader Number := do
  match ← nextByte with
  | none => failHere .eofWhileParsingValue
  | some b =>
      if b == code '0' then
        match ← peekByte with
        | some d => if isDigit d then failAhead .invalidNumber else finishNumber positive 0
        | none => finishNumber positive 0
      else if isDigit b then readIntegerFor positive (← stepsLeft) (digitValue b)
      else failHere .invalidNumber

/-- Skips an exponent after its `e`, checking its form. -/
def skipExponent : Reader Unit := do
  bump
  match ← peekByte with
  | some b => if b == code '+' || b == code '-' then bump
  | none => pure ()
  match ← nextByte with
  | some b => if isDigit b then skipDigits else failHere .invalidNumber
  | none => failHere .invalidNumber

/-- Skips a number after its sign, checking its form. -/
def skipNumber : Reader Unit := do
  match ← nextByte with
  | some b =>
      if b == code '0' then
        match ← peekByte with
        | some d => if isDigit d then failAhead .invalidNumber
        | none => pure ()
      else if isDigit b then skipDigits
      else failHere .invalidNumber
  | none => failHere .invalidNumber
  match ← peekByte with
  | some b =>
      if b == code '.' then
        bump
        match ← peekByte with
        | some d =>
            if isDigit d then
              skipDigits
              match ← peekByte with
              | some e => if e == code 'e' || e == code 'E' then skipExponent
              | none => pure ()
            else failAhead .invalidNumber
        | none => failAhead .invalidNumber
      else if b == code 'e' || b == code 'E' then skipExponent
  | none => pure ()

/-! ## Brackets -/

/-- Whether another item follows in a list; `first` is whether none has been read. -/
def hasNextItem (first : Bool) : Reader Bool := do
  match ← skipSpace with
  | none => failAhead .eofWhileParsingList
  | some b =>
      if b == code ']' then pure false
      else if first then pure true
      else if b == code ',' then
        bump
        match ← skipSpace with
        | some c => if c == code ']' then failAhead .trailingComma else pure true
        | none => failAhead .eofWhileParsingValue
      else failAhead .expectedListCommaOrEnd

/-- Whether another entry follows in an object; on `true` the cursor is at the key's
opening quote.  `first` is whether none has been read. -/
def hasNextKey (first : Bool) : Reader Bool := do
  let next ← do
    match ← skipSpace with
    | some b =>
        if b == code '}' then pure none
        else if b == code ',' && !first then
          bump
          pure (some (← skipSpace))
        else if first then pure (some (some b))
        else failAhead .expectedObjectCommaOrEnd
    | none => failAhead .eofWhileParsingObject
  match next with
  | none => pure false
  | some (some b) =>
      if b == code '"' then pure true
      else if b == code '}' then failAhead .trailingComma
      else failAhead .keyMustBeAString
  | some none => failAhead .eofWhileParsingValue

/-- Reads an entry's key, the cursor at its opening quote. -/
def readKey : Reader String := do
  bump
  readStringBody

/-- Reads the colon between a key and its value. -/
def readColon : Reader Unit := do
  match ← skipSpace with
  | some b => if b == code ':' then bump else failAhead .expectedColon
  | none => failAhead .eofWhileParsingObject

/-- Checks the end of a list after its items. -/
def closeList : Reader Unit := do
  match ← skipSpace with
  | some b =>
      if b == code ']' then bump
      else if b == code ',' then
        bump
        match ← skipSpace with
        | some c => if c == code ']' then failAhead .trailingComma else failAhead .trailingCharacters
        | none => failAhead .trailingCharacters
      else failAhead .trailingCharacters
  | none => failAhead .eofWhileParsingList

/-- Checks the end of an object after its entries. -/
def closeObject : Reader Unit := do
  match ← skipSpace with
  | some b =>
      if b == code '}' then bump
      else if b == code ',' then failAhead .trailingComma
      else failAhead .trailingCharacters
  | none => failAhead .eofWhileParsingObject

/-- Reads inside a bracket at the cursor: spends a nesting level, consumes the bracket,
runs the reader, then checks the closing bracket, even after the reader failed.  The
reader's error comes first. -/
def nested {α : Type} (inside : Reader α) (close : Reader Unit) : Reader α := do
  let c ← get
  if c.levels ≤ 1 then failAhead .recursionLimitExceeded
  else
    set { c with levels := c.levels - 1 }
    bump
    let r ← attempt inside
    modify fun c => { c with levels := c.levels + 1 }
    let e ← attempt close
    match r, e with
    | .ok v, .ok () => pure v
    | .error err, _ => throw err
    | .ok _, .error err => throw err

/-! ## Values of any shape -/

/-- A frame of the skipper's stack: the bracket that is open. -/
abbrev Frame := UInt8

/-- After a value inside frames: consumes commas and closing brackets until the next
value is due (the frame it belongs to) or the outermost frame is closed (`none`). -/
def skipClosingFor : Nat → Bool → Frame → List Frame → Reader (Option (Frame × List Frame))
  | 0, _, frame, stack => pure (some (frame, stack))
  | n + 1, acceptComma, frame, stack => do
      match ← skipSpace with
      | some b =>
          if b == code ',' && acceptComma then
            bump
            pure (some (frame, stack))
          else if (b == code ']' && frame == code '[') || (b == code '}' && frame == code '{') then
            bump
            match stack with
            | [] => pure none
            | outer :: rest => skipClosingFor n true outer rest
          else if acceptComma then
            failAhead (if frame == code '[' then .expectedListCommaOrEnd else .expectedObjectCommaOrEnd)
          else pure (some (frame, stack))
      | none =>
          failAhead (if frame == code '[' then .eofWhileParsingList else .eofWhileParsingObject)

/-- Skips values without reading them, for at most `n` values: `enclosing` is the frame
the next value belongs to, `stack` the frames around it. -/
def skipValueFor : Nat → Option Frame → List Frame → Reader Unit
  | 0, _, _ => pure ()
  | n + 1, enclosing, stack => do
      let b ← do
        match ← skipSpace with
        | some b => pure b
        | none => failAhead .eofWhileParsingValue
      let opened : Option Frame ← do
        if b == code 'n' then bump; expectWord "ull"; pure none
        else if b == code 't' then bump; expectWord "rue"; pure none
        else if b == code 'f' then bump; expectWord "alse"; pure none
        else if b == code '-' then bump; skipNumber; pure none
        else if isDigit b then skipNumber; pure none
        else if b == code '"' then bump; skipStringBody; pure none
        else if b == code '[' || b == code '{' then bump; pure (some b)
        else failAhead .expectedSomeValue
      let stack := match opened, enclosing with
        | some _, some e => e :: stack
        | _, _ => stack
      let current : Option (Bool × Frame × List Frame) :=
        match opened, enclosing with
        | some f, _ => some (false, f, stack)
        | none, some e => some (true, e, stack)
        | none, none => match stack with
          | f :: rest => some (true, f, rest)
          | [] => none
      match current with
      | none => pure ()
      | some (acceptComma, frame, stack) =>
          match ← skipClosingFor (← stepsLeft) acceptComma frame stack with
          | none => pure ()
          | some (frame, stack) =>
              if frame == code '{' then
                match ← skipSpace with
                | some k => if k == code '"' then bump else failAhead .keyMustBeAString
                | none => failAhead .eofWhileParsingObject
                skipStringBody
                readColon
              skipValueFor n (some frame) stack

/-- Skips one value of any shape, checking its syntax only. -/
def skipValue : Reader Unit := do
  skipValueFor (← stepsLeft) none []

mutual

/-- Reads one value of any shape, within `n` steps of nesting and items. -/
def readAnyFor : Nat → Reader Value
  | 0 => failAhead .recursionLimitExceeded
  | n + 1 => placing do
      let b ← do
        match ← skipSpace with
        | some b => pure b
        | none => failAhead .eofWhileParsingValue
      if b == code 'n' then bump; expectWord "ull"; pure .null
      else if b == code 't' then bump; expectWord "rue"; pure (.bool true)
      else if b == code 'f' then bump; expectWord "alse"; pure (.bool false)
      else if b == code '-' then bump; .number <$> readNumber false
      else if isDigit b then .number <$> readNumber true
      else if b == code '"' then bump; .string <$> readStringBody
      else if b == code '[' then .array <$> nested (readItemsFor n true []) closeList
      else if b == code '{' then .object <$> nested (readEntriesFor n true []) closeObject
      else failAhead .expectedSomeValue

/-- Reads the items of a list after its bracket. -/
def readItemsFor : Nat → Bool → List Value → Reader (List Value)
  | 0, _, acc => pure acc.reverse
  | n + 1, first, acc => do
      if ← hasNextItem first then
        let v ← readAnyFor n
        readItemsFor n false (v :: acc)
      else pure acc.reverse

/-- Reads the entries of an object after its brace. -/
def readEntriesFor : Nat → Bool → List (String × Value) → Reader (List (String × Value))
  | 0, _, acc => pure acc.reverse
  | n + 1, first, acc => do
      if ← hasNextKey first then
        let k ← readKey
        readColon
        let v ← readAnyFor n
        readEntriesFor n false ((k, v) :: acc)
      else pure acc.reverse

end

/-- Reads one value of any shape. -/
def readAny : Reader Value := do
  readAnyFor (← stepsLeft)

/-- Checks that only white space is left. -/
def expectEnd : Reader Unit := do
  match ← skipSpace with
  | some _ => failAhead .trailingCharacters
  | none => pure ()

/-- Runs a reader over a whole text: the value, or the first error. -/
def Reader.runText {α : Type} (x : Reader α) (text : String) : Except ReadError α :=
  ((do let v ← x; expectEnd; pure v : Reader α).run.run (Cursor.start text)).1

/-! ## Values of a given shape -/

/-- The error for a value of the wrong kind at the cursor: the value is read to name
it (a bracket is only looked at), and a malformed value gives its syntax error. -/
def wrongKind (expected : String) : Reader ReadError := do
  let b := (← peekByte).getD 0
  let seen : Except ReadError String ← attempt do
    if b == code 'n' then bump; expectWord "ull"; pure "null"
    else if b == code 't' then bump; expectWord "rue"; pure "boolean `true`"
    else if b == code 'f' then bump; expectWord "alse"; pure "boolean `false`"
    else if b == code '-' then bump; Number.describe <$> readNumber false
    else if isDigit b then Number.describe <$> readNumber true
    else if b == code '"' then bump; (fun s => "string " ++ Text.quoted s) <$> readStringBody
    else if b == code '[' then pure "sequence"
    else if b == code '{' then pure "map"
    else throw (← errorAhead .expectedSomeValue)
  match seen with
  | .ok s => pure (invalidType s expected)
  | .error e => pure e

/-- The first byte of a value, white space skipped; the end of the text is refused. -/
def valueStart : Reader UInt8 := do
  match ← skipSpace with
  | some b => pure b
  | none => failAhead .eofWhileParsingValue

/-- Reads a string. -/
def readString : Reader String := placing do
  let b ← valueStart
  if b == code '"' then bump; readStringBody
  else throw (← wrongKind "a string")

/-- Reads an unsigned integer at most `limit`; `name` is how messages call the kind. -/
def readUnsigned (limit : Nat) (name : String) : Reader Nat := placing do
  let b ← valueStart
  let n? ← do
    if b == code '-' then bump; some <$> readNumber false
    else if isDigit b then some <$> readNumber true
    else pure none
  match n? with
  | some (.unsigned n) =>
      if n ≤ limit then pure n else throw (invalidValue (Number.unsigned n).describe name)
  | some (.signed n) => throw (invalidValue (Number.signed n).describe name)
  | some (.float f) => throw (invalidType (Number.float f).describe name)
  | none => throw (← wrongKind name)

/-- Reads `null` as nothing, anything else with the given reader. -/
def readOptional {α : Type} (inner : Reader α) : Reader (Option α) := do
  match ← skipSpace with
  | some b =>
      if b == code 'n' then
        bump
        expectWord "ull"
        pure none
      else some <$> inner
  | none => some <$> inner

/-- Reads the items of a list with a reader for each, for at most `n` items. -/
def readListItemsFor {α : Type} (item : Reader α) : Nat → Bool → List α → Reader (List α)
  | 0, _, acc => pure acc.reverse
  | n + 1, first, acc => do
      if ← hasNextItem first then
        let v ← item
        readListItemsFor item n false (v :: acc)
      else pure acc.reverse

/-- Reads a list whose items are read by the given reader. -/
def readList {α : Type} (item : Reader α) : Reader (List α) := placing do
  let b ← valueStart
  if b == code '[' then nested (do readListItemsFor item (← stepsLeft) true []) closeList
  else throw (← wrongKind "a sequence")

/-! ## Records -/

/-- A field of a record, read into a draft of the record. -/
structure FieldRule (δ : Type) where
  name : String
  /-- Whether the record cannot do without it. -/
  required : Bool
  read : δ → Reader δ

/-- Reads the entries of a record written as an object, for at most `n` entries.
Unknown keys are skipped; a key seen twice is refused as soon as it is read. -/
def readFieldsFor {δ : Type} (fields : List (FieldRule δ)) :
    Nat → Bool → List String → δ → Reader (δ × List String)
  | 0, _, seen, draft => pure (draft, seen)
  | n + 1, first, seen, draft => do
      if ← hasNextKey first then
        let key ← readKey
        match fields.find? (·.name == key) with
        | some f =>
            if seen.contains key then throw (.unplaced ("duplicate field `" ++ key ++ "`"))
            readColon
            let draft ← f.read draft
            readFieldsFor fields n false (key :: seen) draft
        | none =>
            readColon
            skipValue
            readFieldsFor fields n false seen draft
      else pure (draft, seen)

/-- Reads the items of a record written as a list: the fields in order, the missing
tail filled by defaults unless a required field is missing. -/
def readFieldItems {δ : Type} (expecting : String) :
    List (FieldRule δ) → Nat → δ → Reader δ
  | [], _, draft => pure draft
  | f :: rest, index, draft => do
      if ← hasNextItem (index == 0) then
        let draft ← f.read draft
        readFieldItems expecting rest (index + 1) draft
      else if f.required then throw (invalidLength index expecting)
      else readFieldItems expecting rest (index + 1) draft

/-- Reads a record named `name`, as an object or as a list of its fields in order. -/
def readRecord {δ : Type} (name : String) (fields : List (FieldRule δ)) (empty : δ) : Reader δ :=
  placing do
    let b ← valueStart
    if b == code '{' then
      nested (do
        let (draft, seen) ← readFieldsFor fields (← stepsLeft) true [] empty
        match fields.find? (fun f => f.required && !seen.contains f.name) with
        | some f => throw (.unplaced ("missing field `" ++ f.name ++ "`"))
        | none => pure draft) closeObject
    else if b == code '[' then
      let expecting := "struct " ++ name ++ " with " ++ toString fields.length ++ " elements"
      nested (readFieldItems expecting fields 0 empty) closeList
    else throw (← wrongKind ("struct " ++ name))

end BuildWorker.Json
