import BuildWorker.Shell.Tool.Call
/-!
# tr

`tr` translates, deletes or squeezes the bytes of standard input, by one or two sets.

A set is read in two steps.  Backslash escapes come first (`\n` and its kin, `\ooo` in
octal up to 255, `\\`, and a backslash before any other character keeps that
character); an escaped character is never special afterwards.  Then the set is a row of
elements: `[:class:]` (the bytes of a class), `[=c=]` (the character itself),
`[c*n]` (`n` copies, `n` octal with a leading zero; in the second set only), `[c*]`
(as many copies as make the second set as long as the first), `a-z` (a range, which
must not go down), and single characters.

Translating maps the first set onto the second, element by element.  The second set is
extended by repeating its last character to the length of the first, unless `-t` cuts
the first to the length of the second.  Only `[:upper:]` and `[:lower:]` may stand in a
second set that translates, each opposite one of them in the first, which maps letters
to the other case.  With `-c` the first set is every byte not in it, in increasing
order.  `-d` deletes the bytes of the first set, and `-s` squeezes a run of one byte of
the last set given into that byte, after the rest is done.
-/

namespace BuildWorker.Shell

open Text

/-! ## Sets -/

/-- One element of a set. -/
inductive TrElement where
  | byte (b : UInt8)
  | range (low high : UInt8)
  | charClass (name : String)
  | equivalent (b : UInt8)
  /-- `[c*n]`, or `[c*]` without a count. -/
  | repeated (b : UInt8) (count : Option Nat)
  deriving DecidableEq, Repr, Inhabited

/-- The character classes, each with its bytes in increasing order. -/
def trClass? (name : String) : Option (List UInt8) :=
  let all := (List.range 128).map Nat.toUInt8
  let test (p : Char → Bool) := some (all.filter fun b => p (Char.ofNat b.toNat))
  match name with
  | "alpha" => test Char.isAlpha
  | "digit" => test Char.isDigit
  | "alnum" => test Char.isAlphanum
  | "upper" => test Char.isUpper
  | "lower" => test Char.isLower
  | "space" => some [9, 10, 11, 12, 13, 32]
  | "blank" => some [9, 32]
  | "punct" => test fun c => c.toNat > 32 && c.toNat < 127 && !c.isAlphanum
  | "print" => test fun c => c.toNat ≥ 32 && c.toNat < 127
  | "graph" => test fun c => c.toNat > 32 && c.toNat < 127
  | "xdigit" => test fun c => c.isDigit || ('a' ≤ c && c ≤ 'f') || ('A' ≤ c && c ≤ 'F')
  | "cntrl" => some ((List.range 32).map Nat.toUInt8 ++ [127])
  | _ => none

/-- The value of an octal digit. -/
def octalDigit? (b : UInt8) : Option Nat :=
  if 48 ≤ b && b ≤ 55 then some (b.toNat - 48) else none

/-- The byte an escape letter stands for. -/
def escapeByte (b : UInt8) : UInt8 :=
  match b.toNat with
  | 97 => 7
  | 98 => 8
  | 102 => 12
  | 110 => 10
  | 114 => 13
  | 116 => 9
  | 118 => 11
  | _ => b

/-- Replaces the escapes of a set: each byte, marked when it was escaped; and whether
the set ends in a lone backslash, which is kept with a warning. -/
def unescapeSet : Nat → List UInt8 → List (UInt8 × Bool) × Bool
  | 0, _ => ([], false)
  | _ + 1, [] => ([], false)
  | fuel + 1, 92 :: rest =>
      match rest with
      | [] => ([(92, true)], true)
      | d :: more =>
          match octalDigit? d with
          | some v0 =>
              -- up to three octal digits, as long as the value stays a byte
              let (v, after) := match more with
                | e :: more2 =>
                    match octalDigit? e with
                    | some v1 =>
                        match more2 with
                        | f :: more3 =>
                            match octalDigit? f with
                            | some v2 =>
                                if v0 * 64 + v1 * 8 + v2 < 256 then (v0 * 64 + v1 * 8 + v2, more3)
                                else (v0 * 8 + v1, more2)
                            | none => (v0 * 8 + v1, more2)
                        | [] => (v0 * 8 + v1, more2)
                    | none => (v0, more)
                | [] => (v0, more)
              let (tail, lone) := unescapeSet fuel after
              ((v.toUInt8, true) :: tail, lone)
          | none =>
              let (tail, lone) := unescapeSet fuel more
              ((escapeByte d, true) :: tail, lone)
  | fuel + 1, b :: rest =>
      let (tail, lone) := unescapeSet fuel rest
      ((b, false) :: tail, lone)

/-- A byte shown for a message: printable as it is, else as an octal escape. -/
def printableByte (b : UInt8) : String :=
  if b == 92 then "\\\\"
  else if 32 ≤ b && b < 127 then (Char.ofNat b.toNat).toString
  else
    let digits := Nat.toDigits 8 b.toNat
    "\\" ++ String.ofList (List.replicate (3 - digits.length) '0' ++ digits)

/-- The plain bytes of marked bytes. -/
def unmarked (cs : List (UInt8 × Bool)) : List UInt8 := cs.map (·.1)

/-- Reads the name of `[:name:]` or the character of `[=c=]` after the opening two
bytes: what stands before the closing two, and what follows them. -/
def closedBy (closer : UInt8) : Nat → List (UInt8 × Bool) → Option (List UInt8 × List (UInt8 × Bool))
  | 0, _ => none
  | _ + 1, [] => none
  | fuel + 1, (b, escaped) :: rest =>
      if b == closer && !escaped then
        match rest with
        | (93, false) :: after => some ([], after)
        | _ => (closedBy closer fuel rest).map fun (got, after) => (b :: got, after)
      else (closedBy closer fuel rest).map fun (got, after) => (b :: got, after)

/-- Reads the count of `[c*n]` up to its `]`: none for `[c*]`, or the digits. -/
def repeatCount (cs : List (UInt8 × Bool)) : Option (List UInt8 × List (UInt8 × Bool)) :=
  let digits := cs.takeWhile fun (b, e) => b != 93 || e
  match cs.drop digits.length with
  | (93, false) :: after => some (unmarked digits, after)
  | _ => none

/-- Reads the elements of an unescaped set. -/
def readElements : Nat → List (UInt8 × Bool) → Except String (List TrElement)
  | 0, _ => .ok []
  | _ + 1, [] => .ok []
  | fuel + 1, (91, false) :: rest =>
      let literal : Except String (List TrElement) :=
        (readElements fuel rest).map (TrElement.byte 91 :: ·)
      match rest with
      | (58, false) :: inner =>
          match closedBy 58 (inner.length + 1) inner with
          | some (name, after) =>
              let text := decodeLossy name
              match trClass? text with
              | some _ => (readElements fuel after).map (TrElement.charClass text :: ·)
              | none => .error ("invalid character class " ++ quoteName text)
          | none => literal
      | (61, false) :: inner =>
          match closedBy 61 (inner.length + 1) inner with
          | some ([c], after) => (readElements fuel after).map (TrElement.equivalent c :: ·)
          | some (text, _) =>
              .error (decodeLossy text ++ ": equivalence class operand must be a single character")
          | none => literal
      | (c, _) :: (42, false) :: more =>
          match repeatCount more with
          | some ([], after) => (readElements fuel after).map (TrElement.repeated c none :: ·)
          | some (digits, after) =>
              let text := decodeLossy digits
              let value := if text.startsWith "0" then
                  if digits.all (fun d => (octalDigit? d).isSome) then
                    some (digits.foldl (fun n d => n * 8 + ((octalDigit? d).getD 0)) 0)
                  else none
                else text.toNat?
              match value with
              | some n => (readElements fuel after).map (TrElement.repeated c (some n) :: ·)
              | none => .error ("invalid repeat count " ++ quoteName text ++ " in [c*n] construct")
          | none => literal
      | _ => literal
  | fuel + 1, (a, _) :: (45, false) :: (b, _) :: rest =>
      if b < a then
        .error ("range-endpoints of '" ++ printableByte a ++ "-" ++ printableByte b ++
          "' are in reverse collating sequence order")
      else (readElements fuel rest).map (TrElement.range a b :: ·)
  | fuel + 1, (b, _) :: rest => (readElements fuel rest).map (TrElement.byte b :: ·)

/-- The bytes of an element; `fill` is the count of `[c*]`. -/
def TrElement.bytes (fill : Nat) : TrElement → List UInt8
  | .byte b => [b]
  | .range a b => (List.range (b.toNat + 1 - a.toNat)).map fun k => (a.toNat + k).toUInt8
  | .charClass name => (trClass? name).getD []
  | .equivalent b => [b]
  | .repeated b count => List.replicate (count.getD fill) b

/-- Whether an element is `[c*]`. -/
def TrElement.isFill : TrElement → Bool
  | .repeated _ none => true
  | _ => false

/-- Whether an element is a case class. -/
def TrElement.caseClass? : TrElement → Option String
  | .charClass "upper" => some "upper"
  | .charClass "lower" => some "lower"
  | _ => none

/-! ## Translation -/

/-- Pairs the elements of two sets for translating: each case class of the second must
stand opposite a case class of the first, counting every other element as its bytes.
Gives the pairs of bytes, the first set's bytes left over, and the second set's. -/
def pairSets (fill : Nat) : Nat → List TrElement → List TrElement →
    Except String (List (UInt8 × UInt8) × List UInt8 × List UInt8)
  | 0, _, _ => .ok ([], [], [])
  | _ + 1, [], rest => .ok ([], [], rest.flatMap (·.bytes fill))
  | _ + 1, rest, [] => .ok ([], rest.flatMap (·.bytes fill), [])
  | fuel + 1, e1 :: more1, e2 :: more2 =>
      match e2.caseClass? with
      | some toClass =>
          match e1.caseClass? with
          | none => .error "misaligned [:upper:] and/or [:lower:] construct"
          | some from_ =>
              let source := e1.bytes fill
              let pairs := source.map fun b =>
                let c := Char.ofNat b.toNat
                let mapped := if from_ == toClass then c else if toClass == "upper" then c.toUpper else c.toLower
                (b, mapped.toNat.toUInt8)
              (pairSets fill fuel more1 more2).map fun (ps, r1, r2) => (pairs ++ ps, r1, r2)
      | none =>
          -- bytes pair one by one, so an element may be split across the other set's
          let b1 := e1.bytes fill
          let b2 := e2.bytes fill
          if b1.length == b2.length then
            (pairSets fill fuel more1 more2).map fun (ps, r1, r2) => (b1.zip b2 ++ ps, r1, r2)
          else if b1.length < b2.length then
            let rest2 := (b2.drop b1.length).map TrElement.byte
            (pairSets fill fuel more1 (rest2 ++ more2)).map fun (ps, r1, r2) => (b1.zip b2 ++ ps, r1, r2)
          else
            let rest1 := (b1.drop b2.length).map TrElement.byte
            (pairSets fill fuel (rest1 ++ more1) more2).map fun (ps, r1, r2) => (b1.zip b2 ++ ps, r1, r2)

/-- Drops repeats of the same byte in a row, for bytes in the set. -/
def squeezeBytes (set : List UInt8) (bytes : List UInt8) : List UInt8 :=
  (bytes.foldl (fun (acc : Array UInt8 × Option UInt8) b =>
    if set.contains b && acc.2 == some b then acc else (acc.1.push b, some b)) (#[], none)).1.toList

/-- What `tr` is asked to do, read from its options. -/
structure TrRequest where
  delete : Bool
  squeeze : Bool
  complement : Bool
  truncate : Bool
  deriving Repr, Inhabited

/-- The translation table of two sets, or why they cannot translate. -/
def translationTable (q : TrRequest) (set1 set2 : List TrElement) : Except String (List UInt8 × Array UInt8) := do
  if set2.any fun e => match e with
      | .equivalent _ => true
      | _ => false then
    throw "[=c=] expressions may not appear in string2 when translating"
  if set2.any fun e => match e with
      | .charClass name => name != "upper" && name != "lower"
      | _ => false then
    throw "when translating, the only character classes that may appear in\nstring2 are 'upper' and 'lower'"
  if (set2.filter (·.isFill)).length > 1 then
    throw "only one [c*] repeat construct may appear in string2"
  let bytes1 := set1.flatMap (·.bytes 0)
  let bytes1 := if q.complement then ((List.range 256).map Nat.toUInt8).filter (!bytes1.contains ·) else bytes1
  let fixed2 := (set2.flatMap (·.bytes 0)).length
  let fill := bytes1.length - min bytes1.length fixed2
  let hasClass1 := set1.any fun e => match e with
    | .charClass _ => true
    | _ => false
  let (pairs, rest1, _) ←
    if q.complement then
      let b2 := set2.flatMap (·.bytes fill)
      pure (bytes1.zip b2, bytes1.drop b2.length, b2.drop bytes1.length)
    else pairSets fill (set1.length + set2.length + bytes1.length + 1) set1 set2
  let pairs ←
    if rest1.isEmpty || q.truncate then pure pairs
    else
      match set2.getLast? with
      | none => throw "when not truncating set1, string2 must be non-empty"
      | some (.charClass _) =>
          throw "when translating with string1 longer than string2,\nthe latter string must not end with a character class"
      | some _ =>
          let last := ((pairs.map (·.2)).getLast?).getD 0
          pure (pairs ++ rest1.map fun b => (b, last))
  if q.complement && hasClass1 && (pairs.map (·.2)).eraseDups.length > 1 then
      throw "when translating with complemented character classes,\nstring2 must map all characters in the domain to one"
  let table := pairs.foldl (fun (t : Array UInt8) (a, b) => t.setIfInBounds a.toNat b)
    ((List.range 256).map Nat.toUInt8).toArray
  pure (pairs.map (·.2), table)

/-- `tr`: translates, deletes or squeezes bytes of standard input. -/
def trTool (c : ToolCall) : ToolResult :=
  let spec : OptionSpec :=
    { flags := "cCdst".toList,
      long := [("complement", 'c', false), ("delete", 'd', false), ("squeeze-repeats", 's', false),
        ("truncate-set1", 't', false)] }
  match c.options "tr" spec 1 with
  | .error r => r
  | .ok (items, sets) =>
      let q : TrRequest :=
        { delete := hasOption items 'd', squeeze := hasOption items 's',
          complement := hasOption items 'c' || hasOption items 'C', truncate := hasOption items 't' }
      let usage (lines : List String) := c.failLines (lines ++ [helpHint "tr"]) 1
      let needed := if q.delete && q.squeeze then 2 else if q.delete || (q.squeeze && sets.length < 2) then 1 else 2
      match sets with
      | [] => usage ["tr: missing operand"]
      | s1 :: rest =>
          if sets.length < needed then
            usage ["tr: missing operand after " ++ quoteName s1,
              if q.delete then "Two strings must be given when both deleting and squeezing repeats."
              else "Two strings must be given when translating."]
          else if sets.length > needed then
            usage (("tr: extra operand " ++ quoteName (sets.getD needed "")) ::
              (if q.delete && !q.squeeze then
                ["Only one string may be given when deleting without squeezing repeats."]
               else []))
          else
            let read (s : String) : Except String (List TrElement) × Bool :=
              let raw := encode s
              let (marked, lone) := unescapeSet (raw.length + 1) raw
              (readElements (marked.length + 1) marked, lone)
            let (parsed1, lone1) := read s1
            let (parsed2, lone2) := match rest with
              | s2 :: _ => let (p, l) := read s2; (some p, l)
              | [] => (none, false)
            let warnings := (if lone1 || lone2 then
                ["tr: warning: an unescaped backslash at end of string is not portable"] else [])
            let warn (r : ToolResult) : ToolResult :=
              { r with writes := (warnings.map fun w => (2, encode (w ++ "\n"))).toArray ++ r.writes }
            let fail (m : String) : ToolResult := warn (c.failLines ["tr: " ++ m] 1)
            match parsed1, parsed2 with
            | .error m, _ => fail m
            | _, some (.error m) => fail m
            | .ok set1, parsed2 =>
                let set2 := match parsed2 with
                  | some (.ok s) => some s
                  | _ => none
                if set1.any fun e => match e with
                    | .repeated _ _ => true
                    | _ => false then
                  fail "the [c*] repeat construct may not appear in string1"
                else
                  let bytes1 := set1.flatMap (·.bytes 0)
                  let inSet1 (b : UInt8) := bytes1.contains b != q.complement
                  let translating := !q.delete && set2.isSome
                  if !translating && (set2.getD []).any (·.isFill) then
                    fail "the [c*] construct may appear in string2 only when translating"
                  else if q.delete then
                    let kept := c.stdin.filter (!inSet1 ·)
                    let out := match set2 with
                      | some s2 => squeezeBytes (s2.flatMap (·.bytes 0)) kept
                      | none => kept
                    warn { c.done out with readInput := true }
                  else
                    match set2 with
                    | none =>
                        let squeezeSet := ((List.range 256).map Nat.toUInt8).filter inSet1
                        warn { c.done (squeezeBytes squeezeSet c.stdin) with readInput := true }
                    | some s2 =>
                        match translationTable q set1 s2 with
                        | .error m => fail m
                        | .ok (targets, table) =>
                            let out := c.stdin.map fun b => table.getD b.toNat b
                            let out := if q.squeeze then squeezeBytes (targets ++ s2.flatMap (·.bytes 0)) out else out
                            warn { c.done out with readInput := true }

end BuildWorker.Shell
