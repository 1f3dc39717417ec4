/-!
# Extended-precision numbers and their decimal text

`printf`'s floating conversions read their argument into a binary number with a 64-bit
significand and a 15-bit exponent, and print it exactly: the decimal text is the exact
value rounded at the last printed digit, ties to the even digit.

A finite number is `(-1)^negative · significand · 2^exponent` with `significand < 2^64`
and the exponent between `-16445` (where the subnormal numbers live) and `16320`.
Reading rounds a decimal or hexadecimal text to the nearest such number, ties to the
even significand; a value beyond the greatest finite number becomes an infinity, and
both that and a nonzero value that lands below the least normal number are reported as
out of range.

All arithmetic is on natural numbers: a number is the ratio `num / den` of two of them,
and rounding is a division with a look at the remainder.
-/

namespace BuildWorker.Text

/-- A number of the extended format. -/
inductive Extended where
  | finite (negative : Bool) (significand : Nat) (exponent : Int)
  | infinity (negative : Bool)
  | notANumber (negative : Bool)
  deriving DecidableEq, Repr, Inhabited

namespace Extended

/-- The exponent of the subnormal numbers and of the least normal ones. -/
def leastExponent : Int := -16445

/-- The exponent of the greatest finite numbers. -/
def greatestExponent : Int := 16320

/-- The least significand of a normal number. -/
def normalSignificand : Nat := Nat.pow 2 63

/-- `2^k` for an integer `k ≥ 0`, else `1`. -/
def twoTo (k : Int) : Nat := Nat.pow 2 k.toNat

/-- `10^k` for an integer `k ≥ 0`, else `1`. -/
def tenTo (k : Int) : Nat := Nat.pow 10 k.toNat

/-- The quotient of a division rounded to the nearest integer, ties to even. -/
def roundDiv (num den : Nat) : Nat :=
  let q := num / den
  let r := num % den
  if 2 * r > den || (2 * r == den && q % 2 == 1) then q + 1 else q

/-- The integer part of `num / den · 2^(-e)`. -/
def scaledDown (num den : Nat) (e : Int) : Nat :=
  if e ≥ 0 then num / (den * twoTo e) else num * twoTo (-e) / den

/-- The number nearest to a nonnegative ratio, and whether it is out of range. -/
def ofRatio (negative : Bool) (num den : Nat) : Extended × Bool :=
  if num == 0 || den == 0 then (.finite negative 0 0, false)
  else
    let e0 : Int := (Nat.log2 num : Int) - (Nat.log2 den : Int) - 63
    -- the first guess leaves at most one bit too few
    let e := if scaledDown num den e0 < normalSignificand then e0 - 1 else e0
    let e := max e leastExponent
    let (n, d) := if e ≥ 0 then (num, den * twoTo e) else (num * twoTo (-e), den)
    let m := roundDiv n d
    let (m, e) := if m ≥ Nat.pow 2 64 then (m / 2, e + 1) else (m, e)
    if e > greatestExponent then (.infinity negative, true)
    else (.finite negative m e, m < normalSignificand && n % d != 0)

/-- The number nearest to `digits · 10^exponent`; far out of range the answer is known
without computing the power. -/
def ofDecimal (negative : Bool) (digits : Nat) (exponent : Int) : Extended × Bool :=
  if digits == 0 then (.finite negative 0 0, false)
  else
    let magnitude := (toString digits).length + exponent
    if magnitude > 4940 then (.infinity negative, true)
    else if magnitude < -4960 then (.finite negative 0 0, true)
    else if exponent ≥ 0 then ofRatio negative (digits * tenTo exponent) 1
    else ofRatio negative digits (tenTo (-exponent))

/-- The number nearest to `digits · 2^exponent`. -/
def ofBinary (negative : Bool) (digits : Nat) (exponent : Int) : Extended × Bool :=
  if digits == 0 then (.finite negative 0 0, false)
  else
    let magnitude := (Nat.log2 digits : Int) + exponent
    if magnitude > 16400 then (.infinity negative, true)
    else if magnitude < -16500 then (.finite negative 0 0, true)
    else if exponent ≥ 0 then ofRatio negative (digits * twoTo exponent) 1
    else ofRatio negative digits (twoTo (-exponent))

/-! ## Arithmetic

A sum or product is computed exactly on ratios and rounded once, as the hardware does. -/

/-- A finite number as a ratio of natural numbers, without its sign. -/
def ratio (m : Nat) (e : Int) : Nat × Nat :=
  if e ≥ 0 then (m * twoTo e, 1) else (m, twoTo (-e))

/-- A finite number as a signed ratio `num / den`. -/
def toRatio? : Extended → Option (Int × Nat)
  | .finite negative m e =>
      let (n, d) := ratio m e
      some (if negative then -(n : Int) else n, d)
  | _ => none

/-- The number nearest to a signed ratio. -/
def ofSignedRatio (n : Int) (d : Nat) : Extended := (ofRatio (n < 0) n.natAbs d).1

/-- Whether a number is negative (a negative zero is not). -/
def isNegative : Extended → Bool
  | .finite negative m _ => negative && m != 0
  | .infinity negative => negative
  | .notANumber _ => false

/-- The sum of two numbers: exact and rounded when both are finite; an infinity wins over
a finite number, and opposite infinities make no number. -/
def add (x y : Extended) : Extended :=
  match x.toRatio?, y.toRatio? with
  | some (a, b), some (c, d) => ofSignedRatio (a * d + c * b) (b * d)
  | _, _ =>
      match x, y with
      | .notANumber _, _ => x
      | _, .notANumber _ => y
      | .infinity a, .infinity b => if a == b then x else .notANumber true
      | .infinity _, _ => x
      | _, _ => y

/-- The product of two numbers, exact and rounded when both are finite. -/
def mul (x y : Extended) : Extended :=
  match x.toRatio?, y.toRatio? with
  | some (a, b), some (c, d) => ofSignedRatio (a * c) (b * d)
  | _, _ =>
      match x, y with
      | .notANumber _, _ => x
      | _, .notANumber _ => y
      | _, _ => .infinity (x.isNegative != y.isNegative)

/-- Whether `x < y`; no number is below or above anything. -/
def lt (x y : Extended) : Bool :=
  match x.toRatio?, y.toRatio? with
  | some (a, b), some (c, d) => a * d < c * b
  | _, _ =>
      match x, y with
      | .notANumber _, _ | _, .notANumber _ => false
      | .infinity a, .infinity b => a && !b
      | .infinity a, _ => a
      | _, .infinity b => !b
      | _, _ => false

/-- Whether two numbers are equal; no number equals anything. -/
def same (x y : Extended) : Bool :=
  match x.toRatio?, y.toRatio? with
  | some (a, b), some (c, d) => a * d == c * b
  | _, _ =>
      match x, y with
      | .infinity a, .infinity b => a == b
      | _, _ => false

/-! ## Reading -/

/-- Whether a character is a blank that reading skips. -/
def isLeadingSpace (c : Char) : Bool :=
  c == ' ' || c == '\t' || c == '\n' || c == '\r' || c == '\x0b' || c == '\x0c'

/-- The value of a hexadecimal digit. -/
def hexValue (c : Char) : Option Nat :=
  if '0' ≤ c && c ≤ '9' then some (c.toNat - '0'.toNat)
  else if 'a' ≤ c && c ≤ 'f' then some (c.toNat - 'a'.toNat + 10)
  else if 'A' ≤ c && c ≤ 'F' then some (c.toNat - 'A'.toNat + 10)
  else none

/-- Whether characters start with a word, ignoring case. -/
def startsWithWord (cs : List Char) (w : String) : Bool :=
  (cs.take w.length).map Char.toLower == w.toList

/-- Reads an exponent after its letter: an optional sign and digits.  Gives the exponent
and what follows, or nothing when no digit comes. -/
def readExponent (cs : List Char) : Option (Int × List Char) :=
  let (neg, body) := match cs with
    | '-' :: r => (true, r)
    | '+' :: r => (false, r)
    | _ => (false, cs)
  let ds := body.takeWhile Char.isDigit
  if ds.isEmpty then none
  else
    let v : Int := ds.foldl (fun n c => n * 10 + (c.toNat - '0'.toNat)) 0
    some (if neg then -v else v, body.drop ds.length)

/-- Digits of a base before and after an optional point: the value of all of them, how
many came after the point, how many there were, and what follows. -/
def readMantissa (base : Nat) (cs : List Char) : Nat × Nat × Nat × List Char :=
  let digit (c : Char) : Option Nat := (hexValue c).filter (· < base)
  let whole := cs.takeWhile fun c => (digit c).isSome
  let rest := cs.drop whole.length
  let (frac, rest) := match rest with
    | '.' :: r =>
        let f := r.takeWhile fun c => (digit c).isSome
        (f, r.drop f.length)
    | _ => ([], rest)
  let value := (whole ++ frac).foldl (fun n c => n * base + (digit c).getD 0) 0
  (value, frac.length, whole.length + frac.length, rest)

/-- Reads the longest prefix of a text that is a number: leading blanks, a sign, then an
infinity, a not-a-number (with an optional parenthesized tag), a hexadecimal number with
an optional binary exponent, or a decimal one with an optional decimal exponent.  Gives
the number, whether it was out of range, and the characters after it; with no number the
result is zero and the whole text is left. -/
def readPrefix (text : List Char) : Extended × Bool × List Char :=
  let cs := text.dropWhile isLeadingSpace
  let (negative, body) := match cs with
    | '-' :: r => (true, r)
    | '+' :: r => (false, r)
    | _ => (false, cs)
  if startsWithWord body "infinity" then (.infinity negative, false, body.drop 8)
  else if startsWithWord body "inf" then (.infinity negative, false, body.drop 3)
  else if startsWithWord body "nan" then
    let after := body.drop 3
    let rest := match after with
      | '(' :: r =>
          let tag := r.takeWhile fun c => c.isAlphanum || c == '_'
          match r.drop tag.length with
          | ')' :: more => more
          | _ => after
      | _ => after
    (.notANumber negative, false, rest)
  else
    let hex := match body with
      | '0' :: x :: r => if x == 'x' || x == 'X' then some r else none
      | _ => none
    let decimal : Extended × Bool × List Char :=
      let (value, fracDigits, count, rest) := readMantissa 10 body
      if count == 0 then (.finite false 0 0, false, text)
      else
        let (exp, rest) := match rest with
          | e :: r => if e == 'e' || e == 'E' then (readExponent r).getD (0, rest) else (0, rest)
          | [] => (0, rest)
        let (x, range) := ofDecimal negative value (exp - fracDigits)
        (x, range, rest)
    match hex with
    | some r =>
        let (value, fracDigits, count, rest) := readMantissa 16 r
        if count == 0 then decimal
        else
          let (exp, rest) := match rest with
            | p :: more => if p == 'p' || p == 'P' then (readExponent more).getD (0, rest) else (0, rest)
            | [] => (0, rest)
          let (x, range) := ofBinary negative value (exp - 4 * fracDigits)
          (x, range, rest)
    | none => decimal

/-! ## Decimal text -/

/-- `num / den · 10^k` rounded to the nearest integer, ties to even. -/
def roundScaled (num den : Nat) (k : Int) : Nat :=
  if k ≥ 0 then roundDiv (num * tenTo k) den else roundDiv num (den * tenTo (-k))

/-- Whether `num / den ≥ 10^k`. -/
def atLeastPower (num den : Nat) (k : Int) : Bool :=
  if k ≥ 0 then num ≥ den * tenTo k else num * tenTo (-k) ≥ den

/-- The decimal exponent of a positive ratio: the `k` with `10^k ≤ num / den < 10^(k+1)`,
found from an estimate by the bit lengths and corrected step by step. -/
def decimalExponent (num den : Nat) : Int :=
  let bits : Int := (Nat.log2 num : Int) - (Nat.log2 den : Int)
  let guess := bits * 30103 / 100000
  let up := (List.range 8).foldl (fun k _ => if atLeastPower num den (k + 1) then k + 1 else k) guess
  (List.range 8).foldl (fun k _ => if atLeastPower num den k then k else k - 1) up

/-- Decimal digits of a natural number, at least `n` of them. -/
def padDigits (n : Nat) (v : Nat) : String :=
  let s := toString v
  String.ofList (List.replicate (n - s.length) '0') ++ s

/-- A rounded value `v · 10^(-p)` in positional notation with `p` digits after the
point; the point stays without digits when `point` asks for it. -/
def positional (v : Nat) (p : Nat) (point : Bool) : String :=
  let s := padDigits (p + 1) v
  let cut := s.length - p
  let whole := String.ofList (s.toList.take cut)
  let frac := String.ofList (s.toList.drop cut)
  if p == 0 then whole ++ (if point then "." else "") else whole ++ "." ++ frac

/-- `%f`: a ratio with `p` digits after the point. -/
def fixedText (num den : Nat) (p : Nat) (point : Bool) : String :=
  positional (roundScaled num den p) p point

/-- The digits and decimal exponent of a ratio rounded to `p + 1` significant digits. -/
def significantDigits (num den : Nat) (p : Nat) : Nat × Int :=
  if num == 0 then (0, 0)
  else
    let k := decimalExponent num den
    let v := roundScaled num den ((p : Int) - k)
    if v ≥ Nat.pow 10 (p + 1) then (v / 10, k + 1) else (v, k)

/-- The exponent part of scientific notation: a sign and at least two digits. -/
def exponentText (upper : Bool) (k : Int) : String :=
  (if upper then "E" else "e") ++ (if k < 0 then "-" else "+") ++ padDigits 2 k.natAbs

/-- `%e`: a ratio with one digit before the point and `p` after it. -/
def scientificText (num den : Nat) (p : Nat) (upper point : Bool) : String :=
  let (v, k) := significantDigits num den p
  positional v p point ++ exponentText upper k

/-- Drops the zeros at the end of a fraction, and the point if nothing is left after it. -/
def trimFraction (s : String) : String :=
  if !s.toList.contains '.' then s
  else
    let cs := (s.toList.reverse.dropWhile (· == '0'))
    let cs := match cs with
      | '.' :: r => r
      | _ => cs
    String.ofList cs.reverse

/-- `%g`: `p` significant digits (at least one), positional when the exponent is at
least `-4` and below `p`, else scientific; without `alternate` the zeros at the end of
the fraction go. -/
def generalText (num den : Nat) (p : Nat) (upper alternate : Bool) : String :=
  let p := if p == 0 then 1 else p
  let (_, k) := significantDigits num den (p - 1)
  if k < p && k ≥ -4 then
    let s := fixedText num den (p - 1 - k).toNat alternate
    if alternate then s else trimFraction s
  else
    let (v, k) := significantDigits num den (p - 1)
    let s := positional v (p - 1) alternate
    (if alternate then s else trimFraction s) ++ exponentText upper k

/-- Hexadecimal digits of a natural number, at least `n` of them. -/
def hexDigits (n : Nat) (v : Nat) (upper : Bool) : String :=
  let ds := Nat.toDigits 16 v
  let ds := if upper then ds.map Char.toUpper else ds
  String.ofList (List.replicate (n - ds.length) '0' ++ ds)

/-- `%a`: the significand in hexadecimal with its first four bits before the point, and
a binary exponent. -/
def hexText (m : Nat) (e : Int) (p : Option Nat) (upper point : Bool) : String :=
  let x := if upper then "X" else "x"
  let pLetter := if upper then "P" else "p"
  if m == 0 then
    let frac := match p with
      | some n => String.ofList (List.replicate n '0')
      | none => ""
    "0" ++ x ++ "0" ++ (if frac.isEmpty then (if point then "." else "") else "." ++ frac) ++ pLetter ++ "+0"
  else
    -- bring the significand to 64 bits
    let shift := 63 - Nat.log2 m
    let m := m * Nat.pow 2 shift
    let e := e - shift
    let (lead, frac, e) := match p with
      | some n =>
          if n ≥ 15 then (m / Nat.pow 2 60, hexDigits 15 (m % Nat.pow 2 60) upper ++
            String.ofList (List.replicate (n - 15) '0'), e)
          else
            let r := roundDiv m (Nat.pow 2 (60 - 4 * n))
            let lead := r / Nat.pow 16 n
            let body := r % Nat.pow 16 n
            -- a carry out of the leading digit starts again at one
            if lead ≥ 16 then (1, hexDigits n 0 upper, e + 4) else (lead, hexDigits n body upper, e)
      | none =>
          let body := hexDigits 15 (m % Nat.pow 2 60) upper
          (m / Nat.pow 2 60, String.ofList ((body.toList.reverse.dropWhile (· == '0')).reverse), e)
    let exp := e + 60
    "0" ++ x ++ hexDigits 1 lead upper ++ (if frac.isEmpty then (if point then "." else "") else "." ++ frac) ++
      pLetter ++ (if exp < 0 then "-" else "+") ++ toString exp.natAbs

end Extended

end BuildWorker.Text
