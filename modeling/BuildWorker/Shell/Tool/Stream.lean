import BuildWorker.Shell.Tool.Call
/-!
# Utilities over streams of bytes

`cat`, `head`, `tail`, `wc` and `tee`: each reads its files in order (`-`, or no file at
all, is standard input) and writes what it makes of them.

* `cat` copies, and on request numbers lines (`-n`, or `-b` for those not empty),
  squeezes runs of empty lines (`-s`), marks line ends (`-E`) and tabs (`-T`), and shows
  control and high bytes as `^X` and `M-X` (`-v`).  Its state runs on from one file to
  the next, so numbering continues and a line cut at a file's end goes on in the next.
* `head` and `tail` take the first or last lines or bytes; `head -n -N` drops the last
  `N`, `tail -n +N` starts at the `N`th.  With more than one file each part is headed
  `==> name <==`, with an empty line between parts.
* `wc` counts lines, words, characters and bytes, and the longest line; the columns
  are as wide as the total size of the regular files needs (at least seven when an input
  is not a regular file), and one count of one input is written bare.
-/

namespace BuildWorker.Shell

open Text

/-! ## Inputs -/

/-- One input of a utility: its bytes, or why it could not be read. -/
structure Input where
  name : String
  bytes : Except SystemFailure (List UInt8)
  /-- Whether it is a regular file. -/
  regular : Bool

/-- Whether an input exists, readable or not (a directory exists). -/
def Input.exists (i : Input) : Bool :=
  match i.bytes with
  | .ok _ => true
  | .error .isDirectory => true
  | .error _ => false

/-- The inputs named by operands, `-` being standard input (read once: a second `-`
finds it empty); no operand is standard input.  A device without end gives `limit`
bytes. -/
def ToolCall.inputsUpTo (c : ToolCall) (operands : List String) (limit : Nat) : List Input × Bool :=
  let names := if operands.isEmpty then ["-"] else operands
  let (inputs, usedStdin) := names.foldl (fun (acc : Array Input × Bool) name =>
    if name == "-" then
      (acc.1.push { name, bytes := .ok (if acc.2 then [] else c.stdin), regular := c.stdinIsFile }, true)
    else
      let node := c.files.get? (c.path name)
      let regular := match node with
        | some (.file _) => true
        | _ => false
      (acc.1.push { name, bytes := c.files.read (c.path name) limit, regular }, acc.2)) (#[], false)
  (inputs.toList, usedStdin)

/-- The inputs named by operands, read whole. -/
def ToolCall.inputs (c : ToolCall) (operands : List String) : List Input × Bool :=
  c.inputsUpTo operands 0

/-! ## cat -/

/-- What `cat` was asked to show. -/
structure CatOptions where
  number : Bool := false
  numberNonblank : Bool := false
  squeeze : Bool := false
  showEnds : Bool := false
  showTabs : Bool := false
  showNonprinting : Bool := false
  deriving Repr, Inhabited

/-- The state `cat` carries from byte to byte and file to file: the last line number,
and how many line feeds came in a row (`-1` inside a line, `0` at the start of one). -/
structure CatState where
  line : Nat := 0
  newlines : Int := 0
  out : Array UInt8 := #[]
  deriving Inhabited

/-- A line number as `cat` writes it: right-aligned in six columns, then a tab. -/
def lineNumberText (n : Nat) : List UInt8 :=
  let s := toString n
  encode (String.ofList (List.replicate (6 - min 6 s.length) ' ') ++ s ++ "\t")

/-- A byte as `cat -v` shows it. -/
def showByte (o : CatOptions) (b : UInt8) : List UInt8 :=
  let caret (x : UInt8) : List UInt8 := [94, x]
  if b == 9 then (if o.showTabs then caret 73 else [9])
  else if !o.showNonprinting then [b]
  else if b < 32 then caret (b + 64)
  else if b < 127 then [b]
  else if b == 127 then caret 63
  else
    let low := b - 128
    [77, 45] ++ (if low < 32 then caret (low + 64) else if low < 127 then [low] else caret 63)

/-- One byte through `cat`. -/
def CatState.step (o : CatOptions) (st : CatState) (b : UInt8) : CatState :=
  if b == 10 then
    let n := st.newlines + 1
    if n > 0 then
      if n ≥ 2 && o.squeeze then { st with newlines := 2 }
      else
        let numbered := o.number && !o.numberNonblank
        let line := if numbered then st.line + 1 else st.line
        let out := if numbered then st.out ++ (lineNumberText line).toArray else st.out
        let out := if o.showEnds then out.push 36 else out
        { line, newlines := min n 2, out := out.push 10 }
    else
      let out := if o.showEnds then st.out.push 36 else st.out
      { st with newlines := n, out := out.push 10 }
  else
    let (line, out) := if st.newlines ≥ 0 && o.number then
        (st.line + 1, st.out ++ (lineNumberText (st.line + 1)).toArray)
      else (st.line, st.out)
    { line, newlines := -1, out := out ++ (showByte o b).toArray }

/-- `cat`. -/
def catTool (c : ToolCall) : ToolResult :=
  let spec : OptionSpec :=
    { flags := "AbeEnstTuv".toList,
      long := [("show-all", 'A', false), ("number-nonblank", 'b', false), ("show-ends", 'E', false),
        ("number", 'n', false), ("squeeze-blank", 's', false), ("show-tabs", 'T', false),
        ("show-nonprinting", 'v', false)] }
  match c.options "cat" spec 1 with
  | .error r => r
  | .ok (items, operands) =>
      let has (l : Char) := hasOption items l
      let o : CatOptions :=
        { number := has 'n' || has 'b', numberNonblank := has 'b', squeeze := has 's',
          showEnds := has 'E' || has 'A' || has 'e',
          showTabs := has 'T' || has 'A' || has 't',
          showNonprinting := has 'v' || has 'A' || has 'e' || has 't' }
      let (inputs, usedStdin) := c.inputs operands
      let (st, r) := inputs.foldl (fun (acc : CatState × ToolResult) input =>
        let (st, r) := acc
        match input.bytes with
        | .ok bytes =>
            let st := bytes.foldl (CatState.step o) st
            (st, r)
        | .error e =>
            let r := r.write st.out.toList
            ({ st with out := #[] }, r.complain ("cat: " ++ quoteIfNeeded input.name ++ ": " ++ e.plainMessage) 1))
        ({}, c.start)
      { r.write st.out.toList with readInput := usedStdin }

/-! ## Counts with suffixes -/

/-- The multiplier of a size suffix: `b` is 512, `k`/`K` 1024, `M` 1024², and so on;
with `B` after the letter powers of 1000, with `iB` powers of 1024. -/
def sizeSuffix (s : String) : Option Nat :=
  let power (k : Nat) (base : Nat) := Nat.pow base k
  let letterPower (c : Char) : Option Nat :=
    match c with
    | 'k' | 'K' => some 1 | 'M' | 'm' => some 2 | 'G' | 'g' => some 3 | 'T' | 't' => some 4
    | 'P' | 'p' => some 5 | 'E' | 'e' => some 6 | 'Z' | 'z' => some 7 | 'Y' | 'y' => some 8
    | 'R' | 'r' => some 9 | 'Q' | 'q' => some 10
    | _ => none
  match s.toList with
  | [] => some 1
  | ['b'] => some 512
  | [c] => (letterPower c).map (power · 1024)
  | [c, 'B'] => (letterPower c).map (power · 1000)
  | [c, 'i', 'B'] => (letterPower c).map (power · 1024)
  | _ => none

/-- Reads a count with an optional size suffix. -/
def readCount (s : String) : Option Nat :=
  let digits := s.toList.takeWhile Char.isDigit
  if digits.isEmpty then none
  else
    (sizeSuffix (String.ofList (s.toList.drop digits.length))).map fun m =>
      ((String.ofList digits).toNat?.getD 0) * m

/-! ## head and tail -/

/-- What `head` or `tail` takes: lines or bytes, how many, and from which end. -/
structure TakeOptions where
  bytes : Bool := false
  count : Nat := 10
  /-- `head -n -N`: all but the last; `tail -n +N`: from the `N`th on. -/
  fromOtherEnd : Bool := false
  headers : Option Bool := none
  deriving Repr, Inhabited

/-- The part of an input `head` keeps. -/
def headPart (o : TakeOptions) (bytes : List UInt8) : List UInt8 :=
  if o.bytes then
    if o.fromOtherEnd then bytes.take (bytes.length - o.count) else bytes.take o.count
  else
    let lines := splitLinesKeep bytes
    (if o.fromOtherEnd then lines.take (lines.length - o.count) else lines.take o.count).flatten

/-- The part of an input `tail` keeps. -/
def tailPart (o : TakeOptions) (bytes : List UInt8) : List UInt8 :=
  if o.bytes then
    if o.fromOtherEnd then bytes.drop (o.count - 1) else bytes.drop (bytes.length - o.count)
  else
    let lines := splitLinesKeep bytes
    (if o.fromOtherEnd then lines.drop (o.count - 1) else lines.drop (lines.length - o.count)).flatten

/-- Reads the count of `-n` or `-c`: a leading `-` or `+` says from which end. -/
def readTakeCount (tool : String) (bytes : Bool) (text : String) : Except String TakeOptions :=
  let (otherEnd, body) := match text.toList with
    | '-' :: rest => (tool == "head", String.ofList rest)
    | '+' :: rest => (tool == "tail", String.ofList rest)
    | _ => (false, text)
  match readCount body with
  | some n => .ok { bytes, count := n, fromOtherEnd := otherEnd }
  | none => .error (tool ++ ": invalid number of " ++ (if bytes then "bytes" else "lines") ++ ": " ++
      quoteName text)

/-- The old form of `head`'s first argument: a dash, digits, then letters that say what
the digits count (`c` bytes, `b`, `k` or `m` blocks of bytes of 512, 1024 or 1048576,
`l` lines) or how to head the parts (`q`, `v`; `z` is taken and changes nothing).  Any
other letter is refused, named. -/
def headOldForm (text : String) : Option (Except Char TakeOptions) :=
  match text.toList with
  | '-' :: d :: more =>
      if !d.isDigit then none
      else
        let digits := (d :: more).takeWhile Char.isDigit
        let letters := (d :: more).drop digits.length
        let start : Except Char (TakeOptions × Nat) := .ok ({}, 1)
        let read := letters.foldl (fun (acc : Except Char (TakeOptions × Nat)) l =>
          acc.bind fun (o, m) =>
            match l with
            | 'c' => .ok ({ o with bytes := true }, 1)
            | 'b' => .ok ({ o with bytes := true }, 512)
            | 'k' => .ok ({ o with bytes := true }, 1024)
            | 'm' => .ok ({ o with bytes := true }, 1048576)
            | 'l' => .ok ({ o with bytes := false }, m)
            | 'q' => .ok ({ o with headers := some false }, m)
            | 'v' => .ok ({ o with headers := some true }, m)
            | 'z' => .ok (o, m)
            | _ => .error l) start
        some (read.map fun (o, m) => { o with count := (String.ofList digits).toNat?.getD 0 * m })
  | _ => none

/-- Runs `head` or `tail`. -/
def takeTool (tool : String) (pick : TakeOptions → List UInt8 → List UInt8) (c : ToolCall) : ToolResult :=
  -- the old form of tail: a first argument `-N` or `+N` with an optional unit letter, and
  -- at most one file after it
  let tailOldForm : Option (String × Bool × List String) :=
    match c.args with
    | first :: rest =>
        match first.toList with
        | sign :: d :: more =>
            if tool == "tail" && (sign == '-' || sign == '+') && d.isDigit &&
                (d :: more).all (fun x => x.isDigit || x == 'c' || x == 'l' || x == 'b') &&
                rest.length ≤ 1 then
              let digits := (d :: more).takeWhile Char.isDigit
              let unit := (d :: more).drop digits.length
              some ((if sign == '+' then "+" else "") ++ String.ofList digits,
                unit == ['c'], rest)
            else none
        | _ => none
    | [] => none
  -- the old form of head is its first argument only; options may follow it
  let headStart : Except ToolResult (TakeOptions × List String) :=
    match c.args with
    | first :: rest =>
        match (if tool == "head" then headOldForm first else none) with
        | some (.ok o) => .ok (o, rest)
        | some (.error l) =>
            .error (c.failLines [tool ++ ": " ++ (OptionFault.trailing l).message, helpHint tool] 1)
        | none => .ok ({}, c.args)
    | [] => .ok ({}, [])
  let spec : OptionSpec :=
    { flags := "qvz".toList ++ (if tool == "tail" then ['f', 'F'] else []), valued := ['n', 'c'] ++
        (if tool == "tail" then ['s'] else []),
      long := [("lines", 'n', true), ("bytes", 'c', true), ("quiet", 'q', false), ("silent", 'q', false),
        ("verbose", 'v', false), ("zero-terminated", 'z', false)] ++
        (if tool == "tail" then [("follow", 'f', false)] else []),
      digits := some (if tool == "head" then .trailing else .misplaced) }
  let parsed : Except ToolResult (TakeOptions × List String) :=
    match tailOldForm with
    | some (count, bytes, rest) =>
        match readTakeCount tool bytes count with
        | .ok o => .ok (o, rest)
        | .error m => .error (c.failWith m 1)
    | none =>
        match headStart with
        | .error r => .error r
        | .ok (start, args) =>
        match { c with args }.options tool spec 1 with
        | .error r => .error r
        | .ok (items, operands) =>
            let chosen := (items.filter fun i => i.letter == 'n' || i.letter == 'c').getLast?
            let base : Except String TakeOptions := match chosen with
              | some i => (readTakeCount tool (i.letter == 'c') (i.value.getD "")).map
                  fun o => { o with headers := start.headers }
              | none => .ok start
            match base with
            | .error m => .error (c.failWith m 1)
            | .ok o =>
                let quiet := (items.filter fun i => i.letter == 'q' || i.letter == 'v').getLast?
                let headers := match quiet with
                  | some i => some (i.letter == 'v')
                  | none => o.headers
                .ok ({ o with headers }, operands)
  match parsed with
  | .error r => r
  | .ok (o, operands) =>
      let limit := if o.bytes && !o.fromOtherEnd then o.count else 0
      let (inputs, usedStdin) := c.inputsUpTo operands limit
      let showHeaders := o.headers.getD (inputs.length > 1)
      let (r, _) := inputs.foldl (fun (acc : ToolResult × Bool) input =>
        let (r, first) := acc
        let shown := if input.name == "-" then "standard input" else input.name
        let header := if showHeaders then
            encode ((if first then "" else "\n") ++ "==> " ++ shown ++ " <==\n") else []
        match input.bytes with
        | .ok bytes => (r.write (header ++ pick o bytes), false)
        | .error .isDirectory =>
            ((r.write header).complain (tool ++ ": error reading " ++ quoteAlways input.name ++
              ": Is a directory") 1, false)
        | .error e =>
            (r.complain (tool ++ ": cannot open " ++ quoteAlways input.name ++ " for reading: " ++
              e.plainMessage) 1, first))
        (c.start, true)
      { r with readInput := usedStdin }

/-- `head`: the first lines or bytes. -/
def headTool : ToolCall → ToolResult := takeTool "head" headPart

/-- `tail`: the last lines or bytes, or those from a position on. -/
def tailTool : ToolCall → ToolResult := takeTool "tail" tailPart

/-! ## wc -/

/-- The counts of `wc`. -/
structure WcCounts where
  lines : Nat := 0
  words : Nat := 0
  chars : Nat := 0
  bytes : Nat := 0
  longest : Nat := 0
  deriving Repr, Inhabited

/-- Whether a byte separates words. -/
def isWordSpace (b : UInt8) : Bool := b == 32 || (9 ≤ b && b ≤ 13)

/-- Counts an input. -/
def wcCounts (bytes : List UInt8) : WcCounts :=
  let step (acc : WcCounts × Bool × Nat) (b : UInt8) : WcCounts × Bool × Nat :=
    let (k, inWord, col) := acc
    let k := { k with bytes := k.bytes + 1, chars := if b &&& 0xC0 == 0x80 then k.chars else k.chars + 1 }
    let (k, col) :=
      if b == 10 then ({ k with lines := k.lines + 1, longest := max k.longest col }, 0)
      else if b == 9 then (k, col + 8 - col % 8)
      else if b &&& 0xC0 == 0x80 || b < 32 then (k, col)
      else (k, col + 1)
    if isWordSpace b then (k, false, col)
    else if inWord then (k, true, col)
    else ({ k with words := k.words + 1 }, true, col)
  let (k, _, col) := bytes.foldl step ({}, false, 0)
  { k with longest := max k.longest col }

/-- Adds counts, for the total line. -/
def WcCounts.add (a b : WcCounts) : WcCounts :=
  { lines := a.lines + b.lines, words := a.words + b.words, chars := a.chars + b.chars,
    bytes := a.bytes + b.bytes, longest := max a.longest b.longest }

/-- `wc`. -/
def wcTool (c : ToolCall) : ToolResult :=
  let spec : OptionSpec :=
    { flags := "clLmw".toList,
      long := [("bytes", 'c', false), ("chars", 'm', false), ("lines", 'l', false),
        ("max-line-length", 'L', false), ("words", 'w', false)] }
  match c.options "wc" spec 1 with
  | .error r => r
  | .ok (items, operands) =>
      let chosen := ['l', 'w', 'm', 'c', 'L'].filter (hasOption items ·)
      let chosen := if chosen.isEmpty then ['l', 'w', 'c'] else chosen
      let (inputs, usedStdin) := c.inputs operands
      let pickCounts (k : WcCounts) : List Nat :=
        chosen.map fun
          | 'l' => k.lines | 'w' => k.words | 'm' => k.chars | 'c' => k.bytes | _ => k.longest
      -- the column width: from the sizes of the regular inputs, at least 7 when an input is
      -- not one; a single count of a single input is written bare
      let width : Nat :=
        if inputs.length == 1 && chosen.length == 1 then 1
        else
          match inputs.head? with
          | some first =>
              if !first.exists then 1
              else
                let live := inputs.filter (·.exists)
                let minimum := if live.any (!·.regular) then 7 else 1
                let total := (live.filter (·.regular)).foldl (fun n i => n + ((i.bytes.toOption.map List.length).getD 0)) 0
                max minimum (toString total).length
          | none => 1
      let line (k : WcCounts) (name : Option String) : List UInt8 :=
        let cells := (pickCounts k).map fun n =>
          let s := toString n
          String.ofList (List.replicate (width - min width s.length) ' ') ++ s
        encode (" ".intercalate cells ++ (match name with
          | some n => " " ++ n
          | none => "") ++ "\n")
      let named := !operands.isEmpty
      let (r, total) := inputs.foldl (fun (acc : ToolResult × WcCounts) input =>
        let (r, total) := acc
        let shown := if named then some input.name else none
        match input.bytes with
        | .ok bytes =>
            let k := wcCounts bytes
            (r.write (line k shown), total.add k)
        | .error .isDirectory =>
            ((r.complain ("wc: " ++ quoteIfNeeded input.name ++ ": Is a directory") 1).write (line {} shown), total)
        | .error e =>
            (r.complain ("wc: " ++ quoteIfNeeded input.name ++ ": " ++ e.plainMessage) 1, total))
        (c.start, {})
      let r := if inputs.length > 1 then r.write (line total (some "total")) else r
      { r with readInput := usedStdin }

/-! ## tee -/

/-- `tee`: standard input to standard output and to each file (`-a` appends). -/
def teeTool (c : ToolCall) : ToolResult :=
  let spec : OptionSpec := { flags := "aip".toList, long := [("append", 'a', false)] }
  match c.options "tee" spec 1 with
  | .error r => r
  | .ok (items, operands) =>
      let append := hasOption items 'a'
      let r := operands.foldl (fun (r : ToolResult) name =>
        match r.files.write (c.path name) c.stdin append with
        | .ok files => { r with files }
        | .error e => r.complain ("tee: " ++ quoteIfNeeded name ++ ": " ++ e.plainMessage) 1)
        c.start
      { r.write c.stdin with readInput := true }

end BuildWorker.Shell
