import BuildWorker.Shell.Builtin.Options
/-!
# Reading input

`read` takes one line (up to a delimiter, or a number of characters) from standard input
or another descriptor and splits it into variables; `mapfile` (also `readarray`) takes
all the lines into an array.

Without `-r`, a backslash keeps the next character from splitting and is removed, and a
backslash before a line feed joins the next line.  Splitting follows `$IFS`: each name
but the last takes one field, with white separators around it dropped and at most one
hard separator; the last name takes the rest of the line without its white separators
at either end.  With no names the line goes to `REPLY` untouched.

What is read is taken from the descriptor: the next reader starts after it.  Reaching
the end of the input before the delimiter makes the status 1, and the variables still
get what was read.
-/

namespace BuildWorker.Shell

open Text

/-! ## Descriptors for reading -/

/-- The bytes left to read at a descriptor, or nothing when it is not open for
reading. -/
def inputAt (fd : Nat) : ShellM (Option (List UInt8)) := do
  let s ← getShell
  if fd == 0 then pure (if s.stdinClosed then none else some s.stdin)
  else
    match s.fds.lookup fd with
    | some (.source b) => pure (some b)
    | _ => pure none

/-- Sets what is left to read at a descriptor. -/
def setInputAt (fd : Nat) (rest : List UInt8) : ShellM Unit :=
  modifyShell fun s =>
    if fd == 0 then { s with stdin := rest }
    else { s with fds := s.fds.map fun (n, d) => if n == fd then (n, .source rest) else (n, d) }

/-! ## Splitting a line -/

/-- Whether a character is a separator of `$IFS`, and whether a white one. -/
def ifsKind (ifs : String) (c : Char) : Option Bool :=
  if ifs.toList.contains c then some (c == ' ' || c == '\t' || c == '\n') else none

/-- Drops white separators from the front of characters marked when escaped. -/
def dropWhiteFront (ifs : String) (cs : List (Char × Bool)) : List (Char × Bool) :=
  cs.dropWhile fun (c, esc) => !esc && ifsKind ifs c == some true

/-- Takes one field from the front: the characters up to a separator, and what follows
the separator (with white separators around a hard one dropped). -/
def takeField (ifs : String) (cs : List (Char × Bool)) : List Char × List (Char × Bool) :=
  let cs := dropWhiteFront ifs cs
  let field := cs.takeWhile fun (c, esc) => esc || (ifsKind ifs c).isNone
  let rest := cs.drop field.length
  let rest := dropWhiteFront ifs rest
  let rest := match rest with
    | (c, false) :: more => if ifsKind ifs c == some false then dropWhiteFront ifs more else rest
    | _ => rest
  (field.map (·.1), rest)

/-- The values of the names of `read`: one field each, the last one the rest of the line
without white separators at its ends. -/
def splitForRead (ifs : String) : List String → List (Char × Bool) → List (String × String)
  | [], _ => []
  | [name], cs =>
      let cs := dropWhiteFront ifs cs
      let trimmed := (cs.reverse.dropWhile fun (c, esc) => !esc && ifsKind ifs c == some true).reverse
      [(name, String.ofList (trimmed.map (·.1)))]
  | name :: more, cs =>
      let (field, rest) := takeField ifs cs
      (name, String.ofList field) :: splitForRead ifs more rest

/-- All the fields of a line, for `read -a`. -/
def allFields (ifs : String) : Nat → List (Char × Bool) → List String
  | 0, _ => []
  | fuel + 1, cs =>
      let cs := dropWhiteFront ifs cs
      if cs.isEmpty then []
      else
        let (field, rest) := takeField ifs cs
        String.ofList field :: allFields ifs fuel rest

/-- Undoes the backslashes of a line read without `-r`: a backslash escapes the next
character and one before a line feed joins the lines. -/
def unescapeLine : List Char → List (Char × Bool)
  | [] => []
  | ['\\'] => []
  | '\\' :: '\n' :: rest => unescapeLine rest
  | '\\' :: c :: rest => (c, true) :: unescapeLine rest
  | c :: rest => (c, false) :: unescapeLine rest

/-- Takes characters from the front of bytes up to a delimiter (consumed), at most
`limit` of them; a backslash and a line feed do not end the line when `joinLines`.
Gives the characters, whether the delimiter was found, and the bytes left. -/
def takeLine (bytes : List UInt8) (delim : Char) (limit : Option Nat) (ignoreDelim joinLines : Bool) :
    List Char × Bool × List UInt8 :=
  let text := (decodeLossy bytes).toList
  let rec go : Nat → List Char → List Char → Nat → List Char × Bool × List Char
    | 0, acc, rest, _ => (acc.reverse, false, rest)
    | _ + 1, acc, [], _ => (acc.reverse, false, [])
    | fuel + 1, acc, c :: rest, n =>
        if limit.any (n ≥ ·) then (acc.reverse, true, c :: rest)
        else if !ignoreDelim && c == delim then (acc.reverse, true, rest)
        else if joinLines && c == '\\' then
          match rest with
          | d :: more =>
              if d == '\n' && delim == '\n' then go fuel ('\n' :: '\\' :: acc) more n
              else go fuel (d :: '\\' :: acc) more (n + 1)
          | [] => go fuel ('\\' :: acc) [] (n + 1)
        else go fuel (c :: acc) rest (n + 1)
  let (chars, found, rest) := go (text.length + 1) [] text 0
  (chars, found, encode (String.ofList rest))

/-! ## read -/

/-- The options of `read`. -/
structure ReadOptions where
  raw : Bool := false
  array : Option String := none
  delim : Char := '\n'
  count : Option Nat := none
  exact : Bool := false
  fd : Nat := 0
  names : List String := []
  deriving Repr, Inhabited

/-- Whether a word is a timeout `read -t` takes: a decimal number of seconds that is not
negative. -/
def isTimeout (w : String) : Bool :=
  let cs := w.toList
  let whole := cs.takeWhile Char.isDigit
  match cs.drop whole.length with
  | [] => !whole.isEmpty
  | '.' :: frac => frac.all Char.isDigit && !(whole.isEmpty && frac.isEmpty)
  | _ => false

/-- `read`: takes a line of input into variables. -/
def readBuiltin (ev : Evaluator) (args : List String) : ShellM Unit := do
  let some (given, names) ← builtinOptions "read"
    { flags := ['e', 'r', 's'], withArgument := "adinNptu".toList } args | return
  let mut o : ReadOptions := { names }
  for g in given do
    let v := g.argument.getD ""
    match g.letter with
    | 'r' => o := { o with raw := true }
    | 'a' => o := { o with array := some v }
    | 'd' => o := { o with delim := v.toList.head?.getD (Char.ofNat 0) }
    | 'n' | 'N' =>
        match readTestInteger v with
        | some n =>
            if n < 0 || n > 2147483647 then
              failBuiltin "read" (v ++ ": invalid number") 1
              return
            o := { o with count := some n.toNat, exact := g.letter == 'N' }
        | none =>
            failBuiltin "read" (v ++ ": invalid number") 1
            return
    | 'u' =>
        match readTestInteger v with
        | some n =>
            if n < 0 || n > 2147483647 then
              failBuiltin "read" (v ++ ": invalid file descriptor specification") 1
              return
            o := { o with fd := n.toNat }
        | none =>
            failBuiltin "read" (v ++ ": invalid file descriptor specification") 1
            return
    | 't' =>
        if !isTimeout v then
          failBuiltin "read" (v ++ ": invalid timeout specification") 1
          return
    | _ => pure ()
  for n in o.names ++ o.array.toList do
    if !isName n then
      failBuiltin "read" ("`" ++ n ++ "': not a valid identifier") 1
      return
  ev.settle o.fd
  match ← inputAt o.fd with
  | none =>
      failBuiltin "read" (toString o.fd ++ ": invalid file descriptor: Bad file descriptor") 1
  | some input =>
      let (chars, found, rest) := takeLine input o.delim o.count o.exact (!o.raw)
      setInputAt o.fd rest
      let marked := if o.raw then chars.map (·, false) else unescapeLine chars
      let s ← getShell
      let ifs := s.ifs
      match o.array with
      | some arr =>
          let fields := allFields ifs (marked.length + 1) marked
          modifyShell (·.putVar arr { ((s.findVar arr).getD {}) with
            value := .indexed (fields.zipIdx.map fun (f, i) => (i, f)), declaredOnly := false })
      | none =>
          if o.names.isEmpty then
            let _ ← setValue "REPLY" none (String.ofList (marked.map (·.1))) false
          else
            for (n, v) in splitForRead ifs o.names marked do
              let _ ← setValue n none v false
      setStatus (if found then 0 else 1)

/-! ## mapfile -/

/-- `mapfile [-t] [-d delim] [-n count] [-s skip] [-O origin] [-u fd] [array]`: the lines
of the input into an array, `MAPFILE` by default; `-t` drops the delimiters. -/
def mapfileBuiltin (ev : Evaluator) (builtin : String) (args : List String) : ShellM Unit := do
  let some (given, names) ← builtinOptions builtin
    { flags := ['t'], withArgument := "dunOsCc".toList } args | return
  let mut trim := false
  let mut delim := '\n'
  let mut count : Option Nat := none
  let mut skip := 0
  let mut origin : Option Nat := none
  let mut fd := 0
  for g in given do
    let v := g.argument.getD ""
    let number := (readTestInteger v).filter fun n => 0 ≤ n && n ≤ 2147483647
    let refuse (what : String) : ShellM Unit := failBuiltin builtin (v ++ ": " ++ what) 1
    match g.letter with
    | 't' => trim := true
    | 'd' => delim := v.toList.head?.getD (Char.ofNat 0)
    | 'n' =>
        match number with
        | some n => count := if n == 0 then none else some n.toNat
        | none =>
            refuse "invalid line count"
            return
    | 's' =>
        match number with
        | some n => skip := n.toNat
        | none =>
            refuse "invalid line count"
            return
    | 'O' =>
        match number with
        | some n => origin := some n.toNat
        | none =>
            refuse "invalid array origin"
            return
    | 'u' =>
        match number with
        | some n => fd := n.toNat
        | none =>
            refuse "invalid file descriptor specification"
            return
    | 'c' =>
        match number.filter (· ≥ 1) with
        | some _ => pure ()
        | none =>
            refuse "invalid callback quantum"
            return
    | _ => pure ()
  let name := names.head?.getD "MAPFILE"
  if !isName name then
    failBuiltin builtin ("`" ++ name ++ "': not a valid identifier") 1
    return
  ev.settle fd
  match ← inputAt fd with
  | none => failBuiltin builtin (toString fd ++ ": invalid file descriptor: Bad file descriptor") 1
  | some input =>
      setInputAt fd []
      let text := (decodeLossy input).toList
      let pieces := text.splitOn delim
      -- a delimiter at the very end leaves no line after it
      let lines := if text.getLast? == some delim then pieces.dropLast else pieces
      let count' := lines.length
      let lines := lines.zipIdx.map fun (l, i) =>
        String.ofList (if trim || (i + 1 == count' && text.getLast? != some delim) then l else l ++ [delim])
      let lines := lines.drop skip
      let lines := match count with
        | some n => lines.take n
        | none => lines
      let s ← getShell
      let base : List (Nat × String) := match origin with
        | some _ =>
            match ((s.findVar name).map (·.value) : Option VarValue) with
            | some (.indexed items) => items
            | _ => []
        | none => []
      let start := origin.getD 0
      let items := lines.zipIdx.foldl (fun acc (l, i) => setIndexed acc (start + i) l) base
      modifyShell (·.putVar name { ((s.findVar name).getD {}) with value := .indexed items, declaredOnly := false })
      setStatus 0

end BuildWorker.Shell
