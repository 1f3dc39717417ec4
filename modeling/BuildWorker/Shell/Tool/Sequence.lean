import BuildWorker.Shell.Tool.Call
import BuildWorker.Shell.Format
/-!
# Sequences of numbers

`seq [first [step]] last` writes the numbers from `first` (by default 1) by `step` (by
default 1) up to `last`, or down to it for a negative step, each followed by the
separator (`-s`, a line feed by default) except the last, which a line feed follows.

Numbers are read and added in the extended format, and the `k`th number is computed
afresh as `first + k · step`, each operation rounded once, so errors do not pile up.
A number just past `last` that still prints as `last`, and differently from the number
before it, is printed too: `seq 0 0.1 1` ends with `1.0`.

Without a format (`-f`) each number is printed with as many decimals as `first` and
`step` were written with (an exponent shifts them), or zero-padded to a common width
with `-w`.  When all three operands are plain decimal integers, with a small positive
step and a one-character separator, the numbers are exact integers of any size.
-/

namespace BuildWorker.Shell

open Text

/-- The most numbers one `seq` writes. -/
def seqLimit : Nat := 500000

/-- How an operand was written: its value, its width as printed, and its number of
decimals (none when it cannot be told, as for a hexadecimal fraction). -/
structure SeqOperand where
  value : Extended
  width : Nat
  precision : Option Nat
  deriving Repr, Inhabited

/-- Reads an operand of `seq`, or the message saying why it is not a number. -/
def readSeqOperand (arg : String) : Except String SeqOperand :=
  let (value, _, rest) := Extended.readPrefix arg.toList
  let body := arg.toList.dropWhile Extended.isLeadingSpace
  if body.isEmpty || !rest.isEmpty then
    .error ("invalid floating point argument: " ++ quoteName arg)
  else
    match value with
    | .notANumber _ =>
        .error ("invalid " ++ quoteName "not-a-number" ++ " argument: " ++ quoteName arg)
    | _ =>
        let cs := (arg.toList.dropWhile fun c => Extended.isLeadingSpace c || c == '+')
        let point := cs.idxOf? '.'
        let basePrecision : Option Nat :=
          if point.isNone && !cs.contains 'p' then some 0 else none
        let finite := match value with
          | .finite _ _ _ => true
          | _ => false
        if cs.contains 'x' || cs.contains 'X' || !finite then
          .ok { value, width := 0, precision := basePrecision }
        else
          let fractionLen := match point with
            | some k => ((cs.drop (k + 1)).takeWhile fun c => c != 'e' && c != 'E').length
            | none => 0
          let precision : Int := match point with
            | some _ => fractionLen
            | none => (basePrecision.getD 0 : Nat)
          let width : Int := cs.length
          let width : Int := match point with
            | some k =>
                if fractionLen == 0 then width - 1
                else if k == 0 || !((cs.getD (k - 1) ' ').isDigit) then width + 1 else width
            | none => width
          let ePos := match cs.idxOf? 'e' with
            | some k => some k
            | none => cs.idxOf? 'E'
          let (precision, width) : Int × Int := match ePos with
            | none => (precision, width)
            | some e =>
                let expText := cs.drop (e + 1)
                let exponent : Int := match expText with
                  | '-' :: ds => -((String.ofList (ds.takeWhile Char.isDigit)).toNat?.getD 0 : Int)
                  | '+' :: ds => ((String.ofList (ds.takeWhile Char.isDigit)).toNat?.getD 0 : Int)
                  | ds => ((String.ofList (ds.takeWhile Char.isDigit)).toNat?.getD 0 : Int)
                let precision' := if exponent < 0 then precision - exponent else precision - min precision exponent
                let width := width - (cs.length - e : Nat)
                if exponent < 0 then
                  let width := match point with
                    | some k => if e == k + 1 then width + 1 else width
                    | none => width + 1
                  (precision', width - exponent)
                else
                  let width := if point.isSome && precision' == 0 && fractionLen != 0 then width - 1 else width
                  (precision', width - min precision' exponent)
          .ok { value, width := width.toNat,
                precision := if basePrecision.isNone && point.isNone then none else some precision.toNat }

/-- A number printed by a conversion. -/
def seqText (spec : ConversionSpec) (letter : Char) (x : Extended) : List UInt8 :=
  floatText spec letter x

/-- The conversion `seq` prints with when no format is given. -/
def defaultConversion (first step last : SeqOperand) (equalWidth : Bool) : ConversionSpec × Char :=
  match first.precision, step.precision, last.precision with
  | some fp, some sp, some lp =>
      let prec := max fp sp
      if equalWidth then
        let firstWidth : Int := first.width + ((prec : Int) - fp) + (if fp == 0 && prec != 0 then 1 else 0)
        let lastWidth : Int := last.width + ((prec : Int) - lp)
        let lastWidth := if lp != 0 && prec == 0 then lastWidth - 1 else lastWidth
        let lastWidth := if lp == 0 && prec != 0 then lastWidth + 1 else lastWidth
        ({ zeroPad := true, width := (max firstWidth lastWidth).toNat, precision := some prec }, 'f')
      else ({ precision := some prec }, 'f')
  | _, _, _ => ({}, 'g')

/-- A format of `-f`: the text before the one conversion, the conversion, and the text
after it, or the message saying what is wrong with it. -/
def readSeqFormat (format : String) : Except String (List UInt8 × ConversionSpec × Char × List UInt8) :=
  let shown := quoteName format
  -- the text before the conversion, with each %% read as one %
  let rec before : Nat → List Char → Array Char → Option (Array Char × List Char)
    | 0, _, _ => none
    | _ + 1, [], _ => none
    | fuel + 1, '%' :: '%' :: rest, acc => before fuel rest (acc.push '%')
    | _ + 1, '%' :: rest, acc => some (acc, rest)
    | fuel + 1, c :: rest, acc => before fuel rest (acc.push c)
  let rec after : Nat → List Char → Array Char → Option (Array Char)
    | 0, _, acc => some acc
    | _ + 1, [], acc => some acc
    | fuel + 1, '%' :: '%' :: rest, acc => after fuel rest (acc.push '%')
    | _ + 1, '%' :: _, _ => none
    | fuel + 1, c :: rest, acc => after fuel rest (acc.push c)
  match before (format.length + 1) format.toList #[] with
  | none => .error ("format " ++ shown ++ " has no % directive")
  | some (pre, rest) =>
      let (spec, more) := readFlags {} rest
      let ds := more.takeWhile Char.isDigit
      let spec := { spec with width := digitsValueIn 10 ds }
      let more := more.drop ds.length
      let (spec, more) := match more with
        | '.' :: r =>
            let ps := r.takeWhile Char.isDigit
            ({ spec with precision := some (digitsValueIn 10 ps) }, r.drop ps.length)
        | _ => (spec, more)
      let more := match more with
        | 'L' :: r => r
        | _ => more
      match more with
      | [] => .error ("format " ++ shown ++ " ends in %")
      | letter :: tail =>
          if !"efgaEFGA".toList.contains letter then
            .error ("format " ++ shown ++ " has unknown %" ++ letter.toString ++ " directive")
          else
            match after (tail.length + 1) tail #[] with
            | none => .error ("format " ++ shown ++ " has too many % directives")
            | some post => .ok (encode (String.ofList pre.toList), spec, letter, encode (String.ofList post.toList))

/-- The numbers from `first` by `step` while they do not pass `last`, printed between a
prefix and a suffix, with the number just past `last` when it prints as `last` and its
line differs from the one before. -/
def seqItems (pre post : List UInt8) (print : Extended → List UInt8) (first step last : Extended) :
    List (List UInt8) :=
  let descending := step.isNegative
  let past (x : Extended) : Bool := if descending then x.lt last else last.lt x
  if past first then []
  else
    let rec go : Nat → Nat → Extended → Array (List UInt8) → Array (List UInt8)
      | 0, _, _, acc => acc
      | fuel + 1, i, x, acc =>
          let shown := pre ++ print x ++ post
          let acc := acc.push shown
          let next := first.add ((Extended.finite false i 0).mul step)
          if past next then
            let nextNumber := print next
            let (back, _, rest) := Extended.readPrefix (decodeLossy nextNumber).toList
            if !nextNumber.isEmpty && rest.isEmpty && back.same last && pre ++ nextNumber != shown then
              acc.push (pre ++ nextNumber ++ post)
            else acc
          else go fuel (i + 1) next acc
    (go seqLimit 1 first #[]).toList

/-- Whether a text is a plain decimal integer: digits only, at least one. -/
def allDigits (s : String) : Bool := !s.isEmpty && s.all Char.isDigit

/-- The integers from `a` to `b` by `step`, exactly. -/
def integerItems (a b step : Nat) : List (List UInt8) :=
  if b < a then []
  else ((List.range (min seqLimit ((b - a) / step + 1))).map fun k => encode (toString (a + k * step)))

/-- `seq`. -/
def seqTool (c : ToolCall) : ToolResult :=
  let usage (lines : List String) := c.failLines ((lines.map ("seq: " ++ ·)) ++ [helpHint "seq"]) 1
  -- options come first; a word that looks like a negative number ends them
  let rec options : Nat → List String → Option String × String × Bool → Except String ((Option String × String × Bool) × List String)
    | 0, args, acc => .ok (acc, args)
    | _ + 1, [], acc => .ok (acc, [])
    | fuel + 1, a :: rest, (fmt, sep, w) =>
        match a.toList with
        | '-' :: d :: _ =>
            if d == '.' || d.isDigit then .ok ((fmt, sep, w), a :: rest)
            else if a == "--" then .ok ((fmt, sep, w), rest)
            else if a == "-w" || a == "--equal-width" then options fuel rest (fmt, sep, true)
            else if a == "-f" || a == "-s" || a == "--format" || a == "--separator" then
              match rest with
              | v :: more =>
                  if a == "-f" || a == "--format" then options fuel more (some v, sep, w)
                  else options fuel more (fmt, v, w)
              | [] => .error ("option requires an argument -- '" ++ (String.ofList (a.toList.drop 1)) ++ "'")
            else if a.startsWith "-f" then options fuel rest (some (String.ofList (a.toList.drop 2)), sep, w)
            else if a.startsWith "-s" then options fuel rest (fmt, String.ofList (a.toList.drop 2), w)
            else if a.startsWith "--format=" then options fuel rest (some (String.ofList (a.toList.drop 9)), sep, w)
            else if a.startsWith "--separator=" then options fuel rest (fmt, String.ofList (a.toList.drop 12), w)
            else if a.startsWith "--" then .error ("unrecognized option '" ++ a ++ "'")
            else .error ("invalid option -- '" ++ (String.ofList ((a.toList.drop 1).take 1)) ++ "'")
        | _ => .ok ((fmt, sep, w), a :: rest)
  match options (c.args.length + 1) c.args (none, "\n", false) with
  | .error m => usage [m]
  | .ok ((format, separator, equalWidth), operands) =>
      if operands.isEmpty then usage ["missing operand"]
      else if operands.length > 3 then usage ["extra operand " ++ quoteName (operands.getD 3 "")]
      else
        let parsedFormat : Except String (Option (List UInt8 × ConversionSpec × Char × List UInt8)) :=
          match format with
          | some f => (readSeqFormat f).map some
          | none => .ok none
        match parsedFormat with
        | .error m => c.failWith ("seq: " ++ m) 1
        | .ok fmt =>
            if fmt.isSome && equalWidth then
              usage ["format string may not be specified when printing equal width strings"]
            else
              let finish (items : List (List UInt8)) : ToolResult :=
                if items.isEmpty then c.done []
                else c.done ((List.intersperse (encode separator) items).flatten ++ [10])
              let firstText := if operands.length ≥ 2 then operands.getD 0 "" else "1"
              let lastText := operands.getD (operands.length - 1) ""
              let stepText := if operands.length == 3 then operands.getD 1 "" else "1"
              let fastStep := (stepText.toNat?.getD 0)
              if allDigits firstText && allDigits lastText && allDigits stepText && 0 < fastStep &&
                  fastStep ≤ 200 && !equalWidth && fmt.isNone && separator.length == 1 then
                finish (integerItems (firstText.toNat?.getD 0) (lastText.toNat?.getD 0) fastStep)
              else
                let readAll : Except String (SeqOperand × SeqOperand × SeqOperand) := do
                  let first ← if operands.length ≥ 2 then readSeqOperand firstText
                    else pure { value := .finite false 1 0, width := 1, precision := some 0 }
                  let step ← if operands.length == 3 then readSeqOperand stepText
                    else pure { value := .finite false 1 0, width := 1, precision := some 0 }
                  let last ← readSeqOperand lastText
                  pure (first, step, last)
                match readAll with
                | .error m => usage [m]
                | .ok (first, step, last) =>
                    if step.value.same (.finite false 0 0) then
                      usage ["invalid Zero increment value: " ++ quoteName stepText]
                    else
                      let (pre, spec, letter, post) := match fmt with
                        | some f => f
                        | none =>
                            let (spec, letter) := defaultConversion first step last equalWidth
                            ([], spec, letter, [])
                      finish (seqItems pre post (seqText spec letter) first.value step.value last.value)

end BuildWorker.Shell
