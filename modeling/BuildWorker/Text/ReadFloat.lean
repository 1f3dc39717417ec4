/-!
# Reading decimal text as a double

Configuration values that look like numbers are read the standard way: an optional
sign, then `inf`, `infinity` or `nan` in any case, or digits with an optional point and
an optional exponent.  The double is the exact decimal value rounded to nearest, ties
to even; that is computed here in exact arithmetic on the fraction `num / den`, so the
result does not depend on any floating-point step.
-/

namespace BuildWorker.Text

/-- The positive infinite double. -/
def positiveInfinity : Float := 1.0 / 0.0

/-- `⌊num / den⌋` scaled by `2^s`, for an integer `s`. -/
def scaledQuotient (num den : Nat) (s : Int) : Nat × Nat :=
  if s ≥ 0 then ((num * Nat.pow 2 s.toNat) / den, (num * Nat.pow 2 s.toNat) % den)
  else (num / (den * Nat.pow 2 (-s).toNat), num % (den * Nat.pow 2 (-s).toNat))

/-- The double nearest to `num / den` (for `den > 0`), ties to even, with overflow to
infinity and gradual underflow.  The binary exponent `e` with `2^e ≤ num/den < 2^(e+1)`
fixes how many bits to keep: 53 for normal results, down to the fixed last place
`2^-1074` for subnormal ones.  The quotient at that precision with its remainder decide
the rounding exactly. -/
def ratioToFloat (num den : Nat) : Float :=
  if num == 0 || den == 0 then 0
  else
    let guess : Int := (Nat.log2 num : Int) - (Nat.log2 den : Int)
    -- `2^guess` is within a factor of two of the ratio; correct it by one step.
    let e : Int :=
      if guess ≥ 0 then (if num < den * Nat.pow 2 guess.toNat then guess - 1 else guess)
      else (if num * Nat.pow 2 (-guess).toNat < den then guess - 1 else guess)
    if e > 1023 then positiveInfinity
    else
      let s : Int := if e < -1022 then 1074 else 52 - e
      let (q, r) := scaledQuotient num den s
      let divisor := if s ≥ 0 then den else den * Nat.pow 2 (-s).toNat
      let up := 2 * r > divisor || (2 * r == divisor && q % 2 == 1)
      let q := if up then q + 1 else q
      Float.scaleB q.toFloat (-s)

/-- The digits of a text as a number, if it is all ASCII digits. -/
def digitsValue (cs : List Char) : Nat :=
  cs.foldl (fun acc c => acc * 10 + (c.toNat - 48)) 0

/-- Splits off the leading ASCII digits. -/
def spanDigits (cs : List Char) : List Char × List Char :=
  (cs.takeWhile Char.isDigit, cs.dropWhile Char.isDigit)

/-- The value of an unsigned decimal number: digits with an optional point (at least
one digit on one side) and an optional exponent `e` or `E` with optional sign and at
least one digit.  Nothing may follow.  Exponents far out of range give infinity or
zero without building huge numbers. -/
def readUnsignedDecimal (cs : List Char) : Option Float :=
  let (whole, rest) := spanDigits cs
  let (fraction, rest) := match rest with
    | '.' :: more => spanDigits more
    | _ => ([], rest)
  if whole.isEmpty && fraction.isEmpty then none
  else
    let exponent : Option Int := match rest with
      | [] => some 0
      | c :: more =>
          if c == 'e' || c == 'E' then
            let (negative, digits) := match more with
              | '+' :: ds => (false, ds)
              | '-' :: ds => (true, ds)
              | ds => (false, ds)
            if !digits.isEmpty && digits.all Char.isDigit then
              let v : Int := digitsValue digits
              some (if negative then -v else v)
            else none
          else none
    match exponent with
    | none => none
    | some exp =>
        let mantissa := digitsValue (whole ++ fraction)
        let e10 : Int := exp - fraction.length
        if mantissa == 0 then some 0
        else
          let magnitude : Int := e10 + (toString mantissa).length
          if magnitude > 400 then some positiveInfinity
          else if magnitude < -400 then some 0
          else if e10 ≥ 0 then some (ratioToFloat (mantissa * Nat.pow 10 e10.toNat) 1)
          else some (ratioToFloat mantissa (Nat.pow 10 (-e10).toNat))

/-- Reads a double the standard way: an optional sign, then `inf`, `infinity` or `nan`
in any case, or a decimal number. -/
def readFloat (text : String) : Option Float :=
  let (negative, body) := match text.toList with
    | '+' :: rest => (false, rest)
    | '-' :: rest => (true, rest)
    | cs => (false, cs)
  let lower := String.ofList (body.map Char.toLower)
  let value :=
    if lower == "inf" || lower == "infinity" then some positiveInfinity
    else if lower == "nan" then some (0.0 / 0.0)
    else readUnsignedDecimal body
  value.map fun v => if negative then -v else v

end BuildWorker.Text
