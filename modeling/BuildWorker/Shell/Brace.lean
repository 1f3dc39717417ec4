import BuildWorker.Shell.Command
/-!
# Brace expansion

Before anything else is expanded, a word with a brace group becomes several words:
`a{b,c}d` becomes `abd acd`, and a sequence `{1..3}` or `{a..e..2}` becomes one word per
member.  Only braces and commas written bare take part: quoted text and the results of
expansions are never looked into.  A brace group with neither a comma nor a sequence in
it stays as it is written, and so does a `{` with no `}` to close it.

The first brace group that expands is taken: its alternatives are expanded in turn, and
so is what follows the group; the text before the group is kept in front of each.
-/

namespace BuildWorker.Shell

/-- A word as brace expansion sees it: characters written bare, and the other parts,
whose text braces cannot reach. -/
inductive BraceItem where
  | bare (c : Char)
  | fixed (p : WordPart)
  deriving DecidableEq, Repr, Inhabited

/-- The items of a word. -/
def braceItems (w : Word) : List BraceItem :=
  w.flatMap fun
    | .text s false => s.toList.map BraceItem.bare
    | p => [BraceItem.fixed p]

/-- A word from items: runs of bare characters become unquoted text. -/
def wordOfItems (items : List BraceItem) : Word :=
  let (parts, run) := items.foldl (fun (acc : Array WordPart × List Char) item =>
    let (parts, run) := acc
    match item with
    | .bare c => (parts, c :: run)
    | .fixed p =>
        let parts := if run.isEmpty then parts else parts.push (.text (String.ofList run.reverse) false)
        (parts.push p, [])) (#[], [])
  let parts := if run.isEmpty then parts else parts.push (.text (String.ofList run.reverse) false)
  parts.toList

/-- The change of nesting depth an item makes. -/
def braceStep (item : BraceItem) : Int :=
  match item with
  | .bare '\x7b' => 1
  | .bare '\x7d' => -1
  | _ => 0

/-- The length of the group that a `{` opens, up to its closing `}`: the count of items
after the `{` before the `}`. -/
def groupLength (rest : List BraceItem) : Option Nat :=
  let rec go : List BraceItem → Nat → Nat → Option Nat
    | [], _, _ => none
    | item :: more, depth, n =>
        match item with
        | .bare '\x7d' => if depth == 0 then some n else go more (depth - 1) (n + 1)
        | .bare '\x7b' => go more (depth + 1) (n + 1)
        | _ => go more depth (n + 1)
  go rest 0 0

/-- Cuts items at the commas outside any inner group. -/
def splitAlternatives (items : List BraceItem) : List (List BraceItem) :=
  let (done, current, _) := items.foldl (fun (acc : List (List BraceItem) × List BraceItem × Int) item =>
    let (done, current, depth) := acc
    match item with
    | .bare ',' => if depth == 0 then (current.reverse :: done, [], depth) else (done, item :: current, depth)
    | _ => (done, item :: current, depth + braceStep item)) ([], [], 0)
  (current.reverse :: done).reverse

/-- The bare text of items, if they are all bare. -/
def bareText (items : List BraceItem) : Option String :=
  (items.mapM fun (item : BraceItem) => match item with
    | .bare c => some c
    | .fixed _ => none).map String.ofList

/-- The largest signed 64-bit integer. -/
def wordMax : Int := Int.ofNat (Nat.pow 2 63) - 1

/-- The smallest signed 64-bit integer. -/
def wordMin : Int := -Int.ofNat (Nat.pow 2 63)

/-- Reads a whole integer with an optional sign that fits in 64 bits. -/
def readSignedInt (s : String) : Option Int :=
  let digitsValue (ds : List Char) : Option Nat :=
    if !ds.isEmpty && ds.all Char.isDigit then (String.ofList ds).toNat? else none
  let value := match s.toList with
    | '-' :: ds => (digitsValue ds).map fun n => -(Int.ofNat n)
    | '+' :: ds => (digitsValue ds).map Int.ofNat
    | ds => (digitsValue ds).map Int.ofNat
  value.filter fun n => wordMin ≤ n && n ≤ wordMax

/-- The members from `a` to `b` (either way) in steps of `step`, or none when the
distance between them is too large to count: more than about 2^31 members, or a
difference that a 64-bit subtraction could not hold. -/
def rangeMembers (a b : Int) (step : Nat) : Option (List Int) :=
  let step := if step == 0 then 1 else step
  let tooFar := (a > 0 && b < wordMin + 3 + a) || (a < 0 && b > wordMax - 2 + a)
  let gaps := (Int.natAbs (b - a)) / step
  if tooFar || gaps > 2147483644 then none
  else some ((List.range (gaps + 1)).map fun k =>
    if a ≤ b then a + Int.ofNat (step * k) else a - Int.ofNat (step * k))

/-- An integer written at least `width` wide, with zeros after the sign. -/
def padInt (width : Nat) (n : Int) : String :=
  let digits := toString n.natAbs
  let sign := if n < 0 then "-" else ""
  let fill := width - sign.length - digits.length
  sign ++ String.ofList (List.replicate fill '0') ++ digits

/-- Whether an endpoint asks for zero padding: a leading zero before more digits, after
at most a minus sign. -/
def isZeroPadded (s : String) : Bool :=
  match s.toList with
  | '0' :: _ :: _ => true
  | '-' :: '0' :: _ :: _ => true
  | _ => false

/-- The members of a sequence expression `x..y` or `x..y..step`, if the text is one. -/
def sequenceMembers (text : String) : Option (List String) :=
  let parts := text.splitOn ".."
  let (first, last, step?) := match parts with
    | [x, y] => (x, y, some 1)
    | [x, y, z] => (x, y, (readSignedInt z).map Int.natAbs)
    | _ => ("", "", none)
  match step? with
  | none => none
  | some step =>
      match readSignedInt first, readSignedInt last with
      | some a, some b =>
          let width := if isZeroPadded first || isZeroPadded last then max first.length last.length else 0
          (rangeMembers a b step).map (·.map (padInt width))
      | _, _ =>
          match first.toList, last.toList with
          | [x], [y] =>
              if x.isAlpha && y.isAlpha then
                (rangeMembers x.toNat y.toNat step).map (·.map fun n => (Char.ofNat n.toNat).toString)
              else none
          | _, _ => none

/-- The first brace group of items that expands: the items before it, its alternatives,
and the items after it. -/
def firstGroup (items : List BraceItem) : Option (List BraceItem × List (List BraceItem) × List BraceItem) :=
  let rec go : Nat → List BraceItem → List BraceItem → Option (List BraceItem × List (List BraceItem) × List BraceItem)
    | 0, _, _ => none
    | _ + 1, _, [] => none
    | fuel + 1, before, item :: rest =>
        let skip := go fuel (item :: before) rest
        match item with
        | .bare '\x7b' =>
            match groupLength rest with
            | some n =>
                let inner := rest.take n
                let after := rest.drop (n + 1)
                let alternatives := splitAlternatives inner
                if alternatives.length > 1 then some (before.reverse, alternatives, after)
                else
                  match (bareText inner).bind sequenceMembers with
                  | some members => some (before.reverse, members.map fun m => m.toList.map .bare, after)
                  | none => skip
            | none => skip
        | _ => skip
  go (items.length + 1) [] items

/-- Expands the brace groups of items, with `fuel` bounding the nesting. -/
def expandBraceItems : Nat → List BraceItem → List (List BraceItem)
  | 0, items => [items]
  | fuel + 1, items =>
      match firstGroup items with
      | none => [items]
      | some (before, alternatives, after) =>
          let tails := expandBraceItems fuel after
          alternatives.flatMap fun alt =>
            (expandBraceItems fuel alt).flatMap fun x => tails.map fun t => before ++ x ++ t

/-- The words a word becomes by brace expansion. -/
def braceExpand (w : Word) : List Word :=
  let items := braceItems w
  if !items.any (· == .bare '\x7b') then [w]
  else (expandBraceItems (items.length + 1) items).map wordOfItems

end BuildWorker.Shell
