/-!
# Decimal text of doubles

Error messages quote the numbers they refuse, and a double is quoted by the shortest
decimal that reads back as the same double.  This module finds that decimal in exact
natural-number arithmetic and lays it out in the two ways messages use: the data
reader's (positional between `1e-5` and `1e16`, scientific outside) and the plain
positional one of configuration messages.

The search follows the definition: a double stands for every real number that rounds
to it, an interval around its exact value.  For one, two, …, seventeen significant
digits the value's two neighbours on that decimal grid are tested for membership; the
first grid with a member gives the answer, the member nearer to the exact value if both
are in.  Seventeen digits always have a member, so the search never falls through.
-/

namespace BuildWorker.Text

/-- A finite double taken apart: the value is `(-1)^negative · significand · 2^exponent`.
`narrowBelow` says the next double below is closer than the next above, which happens at
a power of two above the least normal double. -/
structure BinaryParts where
  negative : Bool
  significand : Nat
  exponent : Int
  narrowBelow : Bool
  deriving Repr

/-- The parts of a double (meaningful for finite ones). -/
def BinaryParts.ofFloat (f : Float) : BinaryParts :=
  let bits := f.toBits
  let negative := bits >>> 63 == 1
  let biased := ((bits >>> 52) &&& 0x7FF).toNat
  let fraction := (bits &&& 0xFFFFFFFFFFFFF).toNat
  if biased == 0 then ⟨negative, fraction, -1074, false⟩
  else ⟨negative, fraction + Nat.pow 2 52, (biased : Int) - 1075, fraction == 0 && biased > 1⟩

/-- A decimal number `digits · 10^exponent`. -/
structure DecimalNumber where
  digits : Nat
  exponent : Int
  deriving Repr, DecidableEq

/-- `2^b` and `10^k` for integer exponents, as the pair of factors that clears negative
powers: `x·2^b` compared with `q·10^k` is `x·2^(b+nb)·10^nk` compared with
`q·10^(k+nk)·2^nb`. -/
def compareScaled (x : Nat) (b : Int) (q : Nat) (k : Int) : Ordering :=
  let nb := (-b).toNat
  let nk := (-k).toNat
  let lhs := x * Nat.pow 2 (b + nb).toNat * Nat.pow 10 nk
  let rhs := q * Nat.pow 10 (k + nk).toNat * Nat.pow 2 nb
  compare lhs rhs

/-- `⌊x·2^b / 10^k⌋`. -/
def floorScaled (x : Nat) (b : Int) (k : Int) : Nat :=
  let nb := (-b).toNat
  let nk := (-k).toNat
  (x * Nat.pow 2 (b + nb).toNat * Nat.pow 10 nk) / (Nat.pow 10 (k + nk).toNat * Nat.pow 2 nb)

/-- The decimal exponent of the leading digit of `x·2^b` (for `x > 0`): the `e` with
`10^e ≤ x·2^b < 10^(e+1)`.  A first guess from the bit length is off by at most one;
a few corrections settle it. -/
def leadingExponent (x : Nat) (b : Int) : Int :=
  let guess : Int := ((Nat.log2 x : Int) + b) * 30103 / 100000
  let down := fun (e : Int) => if compareScaled x b 1 e == .lt then e - 1 else e
  let up := fun (e : Int) => if compareScaled x b 1 (e + 1) != .lt then e + 1 else e
  up (up (up (down (down (down guess)))))

/-- Drops trailing zeros of the digits, raising the exponent. -/
def DecimalNumber.normalize (d : DecimalNumber) : DecimalNumber :=
  go 20 d
where
  go : Nat → DecimalNumber → DecimalNumber
    | 0, d => d
    | fuel + 1, d =>
        if d.digits != 0 && d.digits % 10 == 0 then go fuel ⟨d.digits / 10, d.exponent + 1⟩
        else d

/-- The shortest decimal that rounds to the positive double with the given significand
and exponent (the sign is handled by the caller). -/
def shortestPositive (p : BinaryParts) : DecimalNumber :=
  if p.significand == 0 then ⟨0, 0⟩ else
  -- Work in quarters of the unit so that both interval ends are whole.
  let b := p.exponent - 2
  let v := 4 * p.significand
  let upper := v + 2
  let lower := if p.narrowBelow then v - 1 else v - 2
  let inclusive := p.significand % 2 == 0
  let inside := fun (q : Nat) (k : Int) =>
    let lo := compareScaled lower b q k
    let hi := compareScaled upper b q k
    if inclusive then lo != .gt && hi != .lt else lo == .lt && hi == .gt
  let lead := leadingExponent v b
  let attempt := fun (n : Nat) =>
    let k := lead - (n : Int) + 1
    let q := floorScaled v b k
    match inside q k, inside (q + 1) k with
    | true, true =>
        -- Twice the value against the midpoint `(2q+1)·10^k`.
        match compareScaled (2 * v) b (2 * q + 1) k with
        | .lt => some ⟨q, k⟩
        | .gt => some ⟨q + 1, k⟩
        | .eq => some (if q % 2 == 0 then ⟨q, k⟩ else ⟨q + 1, k⟩)
    | true, false => some ⟨q, k⟩
    | false, true => some ⟨q + 1, k⟩
    | false, false => none
  let found := (List.range 17).findSome? fun i => attempt (i + 1)
  match found with
  | some (d : DecimalNumber) => d.normalize
  | none => (DecimalNumber.mk (floorScaled v b (lead - 16)) (lead - 16)).normalize

/-- The number of decimal digits of a natural number (one for zero). -/
def digitCount (n : Nat) : Nat := (toString n).length

/-- `n` copies of the digit zero. -/
def zeros (n : Nat) : String := String.ofList (List.replicate n '0')

/-- The reader's layout of a decimal: positional when the leading digit's place is
between `10^-5` and `10^15`, else one digit, a point, the rest and a signed exponent.
Whole numbers keep a `.0`. -/
def DecimalNumber.readerLayout (d : DecimalNumber) : String :=
  let ds := toString d.digits
  let n := ds.length
  let k := d.exponent
  let kk : Int := n + k
  if 0 ≤ k && kk ≤ 16 then ds ++ zeros k.toNat ++ ".0"
  else if 0 < kk && kk ≤ 16 then
    String.ofList (ds.toList.take kk.toNat) ++ "." ++ String.ofList (ds.toList.drop kk.toNat)
  else if -5 < kk && kk ≤ 0 then "0." ++ zeros (-kk).toNat ++ ds
  else
    let e := kk - 1
    let expText := if e < 0 then "-" ++ toString (-e).toNat else "+" ++ toString e.toNat
    match ds.toList with
    | [c] => String.singleton c ++ "e" ++ expText
    | c :: rest => String.singleton c ++ "." ++ String.ofList rest ++ "e" ++ expText
    | [] => "0.0"

/-- The positional layout of a decimal, with `.0` added to whole numbers. -/
def DecimalNumber.positionalLayout (d : DecimalNumber) : String :=
  let ds := toString d.digits
  let n := ds.length
  let k := d.exponent
  let kk : Int := n + k
  if 0 ≤ k then ds ++ zeros k.toNat ++ ".0"
  else if 0 < kk then
    String.ofList (ds.toList.take kk.toNat) ++ "." ++ String.ofList (ds.toList.drop kk.toNat)
  else "0." ++ zeros (-kk).toNat ++ ds

/-- A double as the data reader quotes it in messages. -/
def floatReaderText (f : Float) : String :=
  let p := BinaryParts.ofFloat f
  (if p.negative then "-" else "") ++ (shortestPositive p).readerLayout

/-- A double as configuration messages quote it: positional, `inf` and `NaN` spelled out. -/
def floatPositionalText (f : Float) : String :=
  if f.isNaN then "NaN"
  else
    let p := BinaryParts.ofFloat f
    let sign := if p.negative then "-" else ""
    if f.isInf then sign ++ "inf" else sign ++ (shortestPositive p).positionalLayout

end BuildWorker.Text
