import BuildWorker.Text.Utf8
import BuildWorker.Text.Extended
import BuildWorker.Text.Calendar
import BuildWorker.Shell.Variables
/-!
# Output of `echo` and `printf`

Both builtins produce bytes, not text: an escape such as `\xff` stands for one byte,
whatever it means as UTF-8.

`echo` takes leading words made only of the option letters `n`, `e` and `E` as options:
`-n` drops the final line feed, `-e` turns on backslash escapes and `-E` off (`xpg_echo`
turns them on from the start).  With escapes, `\c` ends all output at once.

`printf` walks its format, writing plain characters and escapes and applying each
conversion to the next argument; it walks the format again while arguments remain and
the last walk used some.  A conversion with no argument left uses an empty text or zero.

Numbers are read as the C library reads them: blanks, a sign, then `0x` for hexadecimal,
`0` for octal, or a quote and a character for its code.  An argument with characters
left after the number is reported (as an invalid octal, hexadecimal or plain number by
how it starts) and counts as the number read so far, and the status becomes 1; a number
beyond the 64-bit range is reported as a warning and counts as the nearest end of the
range.  Floating conversions read an extended-precision number and print it exactly.  A time
conversion `%(format)T` writes an argument, read as seconds since 1970, by a format of
`strftime`.

The messages go to the error output at once, while the output is written a line at a
time (and the rest when the builtin ends), so a message comes after the lines finished
before it and before the line it interrupts.
-/

namespace BuildWorker.Shell

/-- The value of an octal, decimal or hexadecimal digit. -/
def hexDigitValue (c : Char) : Nat :=
  if '0' ≤ c && c ≤ '9' then c.toNat - '0'.toNat
  else if 'a' ≤ c && c ≤ 'f' then c.toNat - 'a'.toNat + 10
  else if 'A' ≤ c && c ≤ 'F' then c.toNat - 'A'.toNat + 10
  else 0

/-- Whether a character is a hexadecimal digit. -/
def isHexDigit (c : Char) : Bool :=
  c.isDigit || ('a' ≤ c && c ≤ 'f') || ('A' ≤ c && c ≤ 'F')

/-- Whether a character is an octal digit. -/
def isOctDigit (c : Char) : Bool := '0' ≤ c && c ≤ '7'

/-- Takes up to `n` leading characters that pass a test. -/
def takeUpTo (n : Nat) (p : Char → Bool) (cs : List Char) : List Char × List Char :=
  let taken := (cs.take n).takeWhile p
  (taken, cs.drop taken.length)

/-- The value of digits in a base. -/
def digitsValueIn (base : Nat) (cs : List Char) : Nat :=
  cs.foldl (fun n c => n * base + hexDigitValue c) 0

/-- The bytes of one character. -/
def charBytes (c : Char) : List UInt8 := Text.encode c.toString

/-- The bytes of a code point in the UTF-8 scheme, which reaches 31 bits with five- and
six-byte forms and encodes the surrogates like any other value. -/
def codePointBytes (v : Nat) : List UInt8 :=
  let tail (k : Nat) : UInt8 := (0x80 + (v / Nat.pow 64 k) % 64).toUInt8
  if v < 0x80 then [v.toUInt8]
  else if v < 0x800 then [(0xC0 + v / 64).toUInt8, tail 0]
  else if v < 0x10000 then [(0xE0 + v / 4096).toUInt8, tail 1, tail 0]
  else if v < 0x200000 then [(0xF0 + v / 262144).toUInt8, tail 2, tail 1, tail 0]
  else if v < 0x4000000 then [(0xF8 + v / 16777216).toUInt8, tail 3, tail 2, tail 1, tail 0]
  else if v < 0x80000000 then
    [(0xFC + v / 1073741824).toUInt8, tail 4, tail 3, tail 2, tail 1, tail 0]
  else []

/-! ## Escapes -/

/-- Where backslash escapes are read: by `echo`, in an argument of `%b`, or in a
`printf` format.  They differ in octal escapes (`\0nnn` for `echo`, also `\nnn` for `%b`,
only `\nnn` in a format), in whether `\c` ends the output, and in whether a `\x` or `\u`
without digits is reported. -/
inductive EscapeStyle where
  | echo
  | argument
  | format
  deriving DecidableEq, Repr

/-- What reading an escape gives: bytes, or the signal to stop all output. -/
inductive Escaped where
  | bytes (b : List UInt8)
  | stop
  deriving DecidableEq, Repr

/-- Reads the escape after a backslash: what it stands for, the characters after it, and
a message when digits are missing. -/
def readEscape (style : EscapeStyle) (cs : List Char) : Escaped × List Char × Option String :=
  let plain (b : List UInt8) (rest : List Char) : Escaped × List Char × Option String := (.bytes b, rest, none)
  let echo := style == .echo
  match cs with
  | [] => plain [92] []
  | c :: rest =>
      match c with
      | 'a' => plain [7] rest
      | 'b' => plain [8] rest
      | 'e' | 'E' => plain [27] rest
      | 'f' => plain [12] rest
      | 'n' => plain [10] rest
      | 'r' => plain [13] rest
      | 't' => plain [9] rest
      | 'v' => plain [11] rest
      | '\\' => plain [92] rest
      | 'c' => if style == .format then plain [92, 99] rest else (.stop, rest, none)
      | '"' | '\'' | '?' => if style == .format then plain (charBytes c) rest else plain (92 :: charBytes c) rest
      | 'x' =>
          let (ds, more) := takeUpTo 2 isHexDigit rest
          if !ds.isEmpty then plain [(digitsValueIn 16 ds).toUInt8] more
          else if echo then plain [92, 120] rest
          else (.bytes [92], cs, some "missing hex digit for \\x")
      | 'u' | 'U' =>
          let (ds, more) := takeUpTo (if c == 'u' then 4 else 8) isHexDigit rest
          if !ds.isEmpty then plain (codePointBytes (digitsValueIn 16 ds)) more
          else if echo then plain (92 :: charBytes c) rest
          else (.bytes [92], cs, some ("missing unicode digit for \\" ++ c.toString))
      | _ =>
          if isOctDigit c then
            if echo && c != '0' then plain (92 :: charBytes c) rest
            else
              let more := if c == '0' && style != .format then 3 else 2
              let (ds, after) := takeUpTo more isOctDigit rest
              plain [(digitsValueIn 8 (c :: ds) % 256).toUInt8] after
          else plain (92 :: charBytes c) rest

/-- Text with its escapes replaced: the bytes, whether a `\c` ended it, and the messages
about missing digits. -/
def expandEscapes (style : EscapeStyle) : Nat → List Char → List UInt8 × Bool × List String
  | 0, _ => ([], false, [])
  | _ + 1, [] => ([], false, [])
  | fuel + 1, c :: rest =>
      if c == '\\' then
        match readEscape style rest with
        | (.stop, _, _) => ([], true, [])
        | (.bytes b, more, msg) =>
            let (out, stopped, msgs) := expandEscapes style fuel more
            (b ++ out, stopped, msg.toList ++ msgs)
      else
        let (out, stopped, msgs) := expandEscapes style fuel rest
        (charBytes c ++ out, stopped, msgs)

/-! ## echo -/

/-- Whether a word is a bundle of `echo` options. -/
def isEchoOption (w : String) : Bool :=
  match w.toList with
  | '-' :: letters@(_ :: _) => letters.all (fun c => c == 'n' || c == 'e' || c == 'E')
  | _ => false

/-- What `echo` writes for its arguments; `escapesByDefault` is `xpg_echo`. -/
def echoOutput (escapesByDefault : Bool) (args : List String) : List UInt8 :=
  let options := args.takeWhile isEchoOption
  let words := args.drop options.length
  let letters := options.flatMap (fun o => (o.toList.drop 1))
  let newline := !letters.contains 'n'
  let escapes := letters.foldl (fun on c => if c == 'e' then true else if c == 'E' then false else on)
    escapesByDefault
  let text := " ".intercalate words
  if escapes then
    let (out, stopped, _) := expandEscapes .echo (text.length + 1) text.toList
    if stopped then out else if newline then out ++ [10] else out
  else
    Text.encode text ++ (if newline then [10] else [])

/-! ## Numbers of printf -/

/-- A number read from the front of a text as the C library's integer readers do:
the magnitude, its sign, whether it is beyond 64 bits... -/
structure ReadInteger where
  negative : Bool
  magnitude : Nat
  /-- Characters after the number; all of them when no digit was read. -/
  rest : List Char
  deriving Repr

/-- Whether a character is skipped before a number. -/
def isNumberBlank (c : Char) : Bool :=
  c == ' ' || c == '\t' || c == '\n' || c == '\r' || c == '\x0b' || c == '\x0c'

/-- Reads an integer in base 0: blanks, a sign, then `0x` and hexadecimal digits, `0` and
octal digits, or decimal digits. -/
def readInteger (text : String) : ReadInteger :=
  let all := text.toList
  let cs := all.dropWhile isNumberBlank
  let (negative, body) := match cs with
    | '-' :: r => (true, r)
    | '+' :: r => (false, r)
    | _ => (false, cs)
  let (base, digitsFrom) := match body with
    | '0' :: x :: r =>
        if (x == 'x' || x == 'X') && (r.head?.map isHexDigit).getD false then (16, r) else (8, body)
    | _ => (10, body)
  let isDigit (c : Char) : Bool :=
    if base == 16 then isHexDigit c else if base == 8 then isOctDigit c else c.isDigit
  let ds := digitsFrom.takeWhile isDigit
  if ds.isEmpty then { negative := false, magnitude := 0, rest := all }
  else { negative, magnitude := digitsValueIn base ds, rest := digitsFrom.drop ds.length }

/-- The message for an argument that is not wholly a number. -/
def invalidNumberMessage (arg : String) : String :=
  match arg.toList with
  | '0' :: d :: _ =>
      if d.isDigit then arg ++ ": invalid octal number"
      else if d == 'x' then arg ++ ": invalid hex number"
      else arg ++ ": invalid number"
  | _ => arg ++ ": invalid number"

/-- The least and greatest 64-bit signed numbers. -/
def leastSigned : Int := -(Int.ofNat (Nat.pow 2 63))

def greatestSigned : Int := Int.ofNat (Nat.pow 2 63) - 1

/-- A read integer as a 64-bit signed number, clamped, with whether it was out of range. -/
def ReadInteger.signed (r : ReadInteger) : Int × Bool :=
  let v : Int := if r.negative then -(r.magnitude : Int) else r.magnitude
  if v > greatestSigned then (greatestSigned, true)
  else if v < leastSigned then (leastSigned, true)
  else (v, false)

/-- A read integer as a 64-bit unsigned number: a negative one wraps, a magnitude beyond
64 bits gives the greatest number. -/
def ReadInteger.unsigned (r : ReadInteger) : Nat × Bool :=
  if r.magnitude ≥ Nat.pow 2 64 then (Nat.pow 2 64 - 1, true)
  else if r.negative && r.magnitude != 0 then (Nat.pow 2 64 - r.magnitude, false)
  else (r.magnitude, false)

/-- The code of the character after a leading quote, for an argument such as `'a`. -/
def quotedCode (arg : String) : Option Nat :=
  match arg.toList with
  | q :: rest => if q == '\'' || q == '"' then some ((rest.head?.map Char.toNat).getD 0) else none
  | [] => none

/-! ## Applying a format -/

/-- The state of applying a format: arguments left, output and messages so far (each
with how much output came before it), and whether an argument failed to read. -/
structure PrintfRun where
  args : List String
  out : Array UInt8 := #[]
  messages : Array (Nat × String) := #[]
  failed : Bool := false
  /-- The time now and when the shell started, in seconds since 1970, for `%(...)T`. -/
  now : Int := 0
  started : Int := 0
  deriving Repr

namespace PrintfRun

/-- Adds bytes to the output. -/
def emit (r : PrintfRun) (b : List UInt8) : PrintfRun := { r with out := r.out ++ b.toArray }

/-- Adds a message. -/
def report (r : PrintfRun) (m : String) : PrintfRun := { r with messages := r.messages.push (r.out.size, m) }

/-- Takes the next argument, if any. -/
def next (r : PrintfRun) : Option String × PrintfRun :=
  match r.args with
  | a :: rest => (some a, { r with args := rest })
  | [] => (none, r)

/-- Reports an argument that is not wholly a number, or one out of range. -/
def check (r : PrintfRun) (arg : String) (rest : List Char) (outOfRange : Bool) : PrintfRun :=
  if !rest.isEmpty then { r.report (invalidNumberMessage arg) with failed := true }
  else if outOfRange then r.report ("warning: " ++ arg ++ ": Numerical result out of range")
  else r

/-- Takes the next argument as a signed integer. -/
def nextSigned (r : PrintfRun) : Int × PrintfRun :=
  match r.next with
  | (none, r) => (0, r)
  | (some a, r) =>
      match quotedCode a with
      | some n => (n, r)
      | none =>
          let read := readInteger a
          let (v, range) := read.signed
          (v, r.check a read.rest range)

/-- Takes the next argument as an unsigned integer. -/
def nextUnsigned (r : PrintfRun) : Nat × PrintfRun :=
  match r.next with
  | (none, r) => (0, r)
  | (some a, r) =>
      match quotedCode a with
      | some n => (n, r)
      | none =>
          let read := readInteger a
          let (v, range) := read.unsigned
          (v, r.check a read.rest range)

/-- Takes the next argument as an extended-precision number. -/
def nextExtended (r : PrintfRun) : Text.Extended × PrintfRun :=
  match r.next with
  | (none, r) => (.finite false 0 0, r)
  | (some a, r) =>
      match quotedCode a with
      | some n => (.finite false n 0, r)
      | none =>
          let (x, range, rest) := Text.Extended.readPrefix a.toList
          (x, r.check a rest range)

/-- Takes a width or precision given as `*`: a signed integer clamped to 32 bits. -/
def nextCount (r : PrintfRun) : Int × PrintfRun :=
  let given := !r.args.isEmpty
  let (v, r) := r.nextSigned
  let bound : Int := Int.ofNat (Nat.pow 2 31)
  if !given then (v, r)
  else
    match r.args with
    | [] =>
        -- the last argument is cut to 32 bits, unchecked
        let m := v % (2 * bound)
        (if m ≥ bound then m - 2 * bound else m, r)
    | following :: _ =>
        -- a count out of range is clamped, and the warning names the argument after it
        let warn := "warning: " ++ following ++ ": Numerical result out of range"
        if v ≥ bound then (bound - 1, r.report warn)
        else if v < -bound then (-bound, r.report warn)
        else (v, r)

end PrintfRun

/-- A conversion's flags, width and precision. -/
structure ConversionSpec where
  leftAlign : Bool := false
  zeroPad : Bool := false
  plusSign : Bool := false
  spaceSign : Bool := false
  alternate : Bool := false
  width : Nat := 0
  precision : Option Nat := none
  deriving Repr, Inhabited

/-- Pads bytes with spaces to a width. -/
def padBytes (s : ConversionSpec) (body : List UInt8) : List UInt8 :=
  let fill := List.replicate (s.width - body.length) (32 : UInt8)
  if s.leftAlign then body ++ fill else fill ++ body

/-- Lays out a number: its sign or prefix, its digits, padded with zeros after the prefix
when asked and allowed, else with spaces. -/
def padNumber (s : ConversionSpec) (prefix_ : String) (digits : String) (zeroOk : Bool) : List UInt8 :=
  let body := prefix_.length + digits.length
  if s.zeroPad && !s.leftAlign && zeroOk && body < s.width then
    Text.encode (prefix_ ++ String.ofList (List.replicate (s.width - body) '0') ++ digits)
  else padBytes s (Text.encode (prefix_ ++ digits))

/-- Digits of a natural number in a base, lower or upper case. -/
def natDigits (base : Nat) (upper : Bool) (n : Nat) : String :=
  let ds := Nat.toDigits base n
  String.ofList (if upper then ds.map Char.toUpper else ds)

/-- Digits with a precision: at least that many, and none for zero with precision zero. -/
def withPrecision (p : Option Nat) (n : Nat) (digits : String) : String :=
  match p with
  | some 0 => if n == 0 then "" else digits
  | some k => String.ofList (List.replicate (k - digits.length) '0') ++ digits
  | none => digits

/-- The sign of a number: minus, or plus or space when asked. -/
def signText (s : ConversionSpec) (negative : Bool) : String :=
  if negative then "-" else if s.plusSign then "+" else if s.spaceSign then " " else ""

/-- `%d` and `%i`. -/
def signedText (s : ConversionSpec) (v : Int) : List UInt8 :=
  let digits := withPrecision s.precision v.natAbs (toString v.natAbs)
  padNumber s (signText s (v < 0)) digits s.precision.isNone

/-- `%u`, `%o`, `%x` and `%X`. -/
def unsignedText (s : ConversionSpec) (letter : Char) (n : Nat) : List UInt8 :=
  let base := if letter == 'o' then 8 else if letter == 'u' then 10 else 16
  let digits := withPrecision s.precision n (natDigits base (letter == 'X') n)
  let digits := if letter == 'o' && s.alternate && !digits.startsWith "0" then "0" ++ digits else digits
  let prefix_ := if s.alternate && n != 0 then
      (if letter == 'x' then "0x" else if letter == 'X' then "0X" else "") else ""
  padNumber s prefix_ digits s.precision.isNone

/-- `%f`, `%e`, `%g`, `%a` and their capitals. -/
def floatText (s : ConversionSpec) (letter : Char) (x : Text.Extended) : List UInt8 :=
  let upper := letter.isUpper
  let lower := letter.toLower
  match x with
  | .infinity neg => padBytes s (Text.encode (signText s neg ++ if upper then "INF" else "inf"))
  | .notANumber neg => padBytes s (Text.encode (signText s neg ++ if upper then "NAN" else "nan"))
  | .finite neg m e =>
      let (num, den) := Text.Extended.ratio m e
      let p := s.precision.getD 6
      let body :=
        if lower == 'f' then Text.Extended.fixedText num den p s.alternate
        else if lower == 'e' then Text.Extended.scientificText num den p upper s.alternate
        else if lower == 'g' then Text.Extended.generalText num den p upper s.alternate
        else Text.Extended.hexText m e s.precision upper s.alternate
      padNumber s (signText s neg) body true

/-- `%q`: the argument quoted so that the shell reads it back. -/
def shellQuoted (arg : String) : String :=
  if arg.isEmpty then "''"
  else if needsAnsiQuotes arg then ansiQuote arg
  else
    let cs := arg.toList
    String.join (cs.zipIdx.map fun (c, i) =>
      let special := " \t\n!\"$&'()*,;<>?[\\]^\x7b|\x7d".toList.contains c || c == '\x60' ||
        (c == '#' && i == 0) ||
        (c == '~' && (i == 0 || cs[i - 1]? == some '=' || cs[i - 1]? == some ':'))
      (if special then "\\" else "") ++ c.toString)

/-- Bytes cut to a precision and padded to a width. -/
def stringText (s : ConversionSpec) (b : List UInt8) : List UInt8 :=
  padBytes s (match s.precision with
    | some p => b.take p
    | none => b)

/-- How a walk over the format ended: at its end, or with all output stopped and a
status. -/
inductive WalkEnd where
  | finished
  | stopped (failure : Bool)
  deriving DecidableEq, Repr

/-- The flag characters of a conversion. -/
def isFlagChar (c : Char) : Bool := "#'-+ 0".toList.contains c

/-- The length modifiers, which are skipped. -/
def isLengthModifier (c : Char) : Bool := "hjlLtz".toList.contains c

/-- Reads the flags of a conversion. -/
def readFlags (s : ConversionSpec) : List Char → ConversionSpec × List Char
  | [] => (s, [])
  | d :: rest =>
      if !isFlagChar d then (s, d :: rest)
      else
        let s := match d with
          | '-' => { s with leftAlign := true }
          | '0' => { s with zeroPad := true }
          | '+' => { s with plusSign := true }
          | ' ' => { s with spaceSign := true }
          | '#' => { s with alternate := true }
          | _ => s
        readFlags s rest

/-- Applies one conversion whose flags, width and precision are read, to the letter at the
front of the characters. -/
def applyConversion (r : PrintfRun) (s : ConversionSpec) (start : List Char) (cs : List Char) :
    PrintfRun × Option WalkEnd × List Char :=
  match cs with
  | [] => ({ r.report ("\x60" ++ String.ofList start ++ "': missing format character") with failed := true },
      some (.stopped true), [])
  | letter :: rest =>
      match letter with
      | 's' =>
          let (a, r) := r.next
          (r.emit (stringText s (Text.encode (a.getD ""))), none, rest)
      | 'b' =>
          let (a, r) := r.next
          let text := a.getD ""
          let (bytes, stopped, msgs) := expandEscapes .argument (text.length + 1) text.toList
          let r := msgs.foldl PrintfRun.report r
          let r := r.emit (stringText s bytes)
          (r, if stopped then some (.stopped r.failed) else none, rest)
      | 'q' | 'Q' =>
          let (a, r) := r.next
          (r.emit (stringText s (Text.encode (shellQuoted (a.getD "")))), none, rest)
      | 'c' =>
          let (a, r) := r.next
          let b := ((Text.encode (a.getD "")).head?).getD 0
          (r.emit (padBytes s [b]), none, rest)
      | 'd' | 'i' =>
          let (v, r) := r.nextSigned
          (r.emit (signedText s v), none, rest)
      | 'u' | 'o' | 'x' | 'X' =>
          let (v, r) := r.nextUnsigned
          (r.emit (unsignedText s letter v), none, rest)
      | 'f' | 'F' | 'e' | 'E' | 'g' | 'G' | 'a' | 'A' =>
          let (x, r) := r.nextExtended
          (r.emit (floatText s letter x), none, rest)
      | _ =>
          ({ r.report ("\x60" ++ letter.toString ++ "': invalid format character") with failed := true },
            some (.stopped true), rest)

/-- Applies `%(format)T` whose flags, width and precision are read, the characters
starting after its parenthesis: the next argument as seconds since 1970 (`-1` or none
for now, `-2` for when the shell started) written by the format, or `%X` for an empty
one, as `%s` writes a text; a result of 128 characters or more is empty.  Without its
closing `)T` it is a warning, and the `%` is written as a plain character. -/
def applyTimeConversion (r : PrintfRun) (s : ConversionSpec) (afterPercent afterParen : List Char) :
    PrintfRun × Option WalkEnd × List Char :=
  let rec inner : Nat → Nat → List Char → List Char × List Char
    | 0, _, cs => ([], cs)
    | _ + 1, _, [] => ([], [])
    | fuel + 1, depth, c :: rest =>
        if c == ')' && depth == 1 then ([], rest)
        else
          let depth := if c == '(' then depth + 1 else if c == ')' then depth - 1 else depth
          let (got, after) := inner fuel depth rest
          (c :: got, after)
  let (format, after) := inner (afterParen.length + 1) 1 afterParen
  match after with
  | 'T' :: more =>
      let (arg, r) := match r.args with
        | [] => ((-1 : Int), r)
        | _ => r.nextSigned
      let secs := if arg == -1 then r.now else if arg == -2 then r.started else arg
      let format := if format.isEmpty then "%X" else String.ofList format
      let text := Text.formatEpoch format secs
      let text := if text.length ≥ 128 then "" else text
      (r.emit (stringText s (Text.encode text)), none, more)
  | c :: _ =>
      ((r.report ("warning: \x60" ++ c.toString ++ "': invalid time format specification")).emit [37],
        none, afterPercent)
  | [] =>
      ((r.report "warning: \x60 ': invalid time format specification").emit [37], none, afterPercent)

/-- The largest width or precision a conversion is given room for. -/
def widthBound : Nat := Nat.pow 2 20

/-- Reads a conversion after its `%`: flags, a width (or `*`), a precision (or `.*`),
length modifiers, and the letter; then applies it. -/
def readConversion (r : PrintfRun) (cs : List Char) : PrintfRun × Option WalkEnd × List Char :=
  let (s, more) := readFlags {} cs
  let (r, s, more) := match more with
    | '*' :: after =>
        let (w, r) := r.nextCount
        (r, if w < 0 then { s with leftAlign := true, width := w.natAbs } else { s with width := w.toNat }, after)
    | _ =>
        let ds := more.takeWhile Char.isDigit
        (r, { s with width := digitsValueIn 10 ds }, more.drop ds.length)
  let (r, s, more) := match more with
    | '.' :: '*' :: after =>
        let (p, r) := r.nextCount
        (r, { s with precision := if p < 0 then none else some p.toNat }, after)
    | '.' :: after =>
        let after := match after with
          | '-' :: a => a
          | _ => after
        let ds := after.takeWhile Char.isDigit
        (r, { s with precision := some (digitsValueIn 10 ds) }, after.drop ds.length)
    | _ => (r, s, more)
  let more := more.dropWhile isLengthModifier
  -- a field is kept to a size that can be written at all
  let s := { s with width := min s.width widthBound, precision := s.precision.map (min · widthBound) }
  let start := '%' :: cs.take (cs.length - more.length)
  match more with
  | '(' :: afterParen => applyTimeConversion r s cs afterParen
  | _ => applyConversion r s (if more.isEmpty then '%' :: cs else start) more

/-- Walks the format once. -/
def walkFormat : Nat → PrintfRun → List Char → PrintfRun × WalkEnd
  | 0, r, _ => (r, .finished)
  | _ + 1, r, [] => (r, .finished)
  | fuel + 1, r, c :: rest =>
      if c == '\\' then
        match readEscape .format rest with
        | (.stop, more, _) => walkFormat fuel r more
        | (.bytes b, more, msg) =>
            let r := match msg with
              | some m => r.report m
              | none => r
            walkFormat fuel (r.emit b) more
      else if c == '%' then
        match rest with
        | '%' :: more => walkFormat fuel (r.emit [37]) more
        | _ =>
            match readConversion r rest with
            | (r, some stop, _) => (r, stop)
            | (r, none, more) => walkFormat fuel r more
      else walkFormat fuel (r.emit (charBytes c)) rest

/-- Walks the format again while arguments remain and each walk uses some. -/
def walkAll (format : List Char) : Nat → PrintfRun → PrintfRun × WalkEnd
  | 0, r => (r, .finished)
  | fuel + 1, r =>
      let before := r.args.length
      match walkFormat (format.length + 1) r format with
      | (r, .stopped f) => (r, .stopped f)
      | (r, .finished) =>
          if r.args.isEmpty || r.args.length == before then (r, .finished)
          else walkAll format fuel r

/-- What `printf` writes for a format and arguments, its messages (without the builtin's
name, each after the amount of output written before it), and its status. -/
def printfOutput (format : String) (args : List String) (now started : Int) :
    List UInt8 × List (Nat × String) × Nat :=
  let (r, ending) := walkAll format.toList (args.length + 1) { args, now, started }
  let failed := match ending with
    | .stopped f => f || r.failed
    | .finished => r.failed
  (r.out.toList, r.messages.toList, if failed then 1 else 0)

/-- How much of an output is out when a message is written after `upTo` bytes of it,
`flushed` being out already: output is written a line at a time, so up to the last line
feed. -/
def flushedBefore (out : List UInt8) (flushed upTo : Nat) : Nat :=
  let pending := (out.take upTo).drop flushed
  match (pending.zipIdx.filter (·.1 == 10)).getLast? with
  | some (_, i) => flushed + i + 1
  | none => flushed

end BuildWorker.Shell
