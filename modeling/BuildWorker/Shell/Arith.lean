import BuildWorker.Shell.Machine
/-!
# Shell arithmetic

The language of `$(( ... ))`, `(( ... ))` and `let`: signed 64-bit integers that wrap
around, with the operators of C and `**` for powers.  Division and remainder truncate
toward zero.  Numbers are decimal, `0x` hexadecimal, `0` octal, or `base#digits` for
bases 2 to 64.

The expression is read and evaluated in one pass, by recursive descent with one token
of look-ahead.  This fixes which error is reported when an expression has several:

* a name is evaluated as soon as its token is read (unless an `=` follows it): its
  text is itself an expression, evaluated on its own, so an error inside it names that
  text;
* operands that `&&`, `||` and `?:` skip are read but not evaluated, and nothing they
  would assign is assigned;
* an error names the expression (without its leading blanks) and the rest of the text
  from the start of the last token read; reaching the end reads no token, so an error
  there names the last one.
-/

namespace BuildWorker.Shell

/-- Why an arithmetic expression has no value: the message, the expression it arose in,
and the text from the token where it was found.  A `silent` failure has been reported
already. -/
structure ArithFailure where
  expression : String
  message : String
  token : String
  silent : Bool := false
  deriving Repr, Inhabited

/-- The wording of an arithmetic failure. -/
def ArithFailure.text (f : ArithFailure) : String :=
  f.expression ++ ": " ++ f.message ++ " (error token is \"" ++ f.token ++ "\")"

/-- A value reduced to a signed 64-bit word. -/
def wrapWord (n : Int) : Int := Int.bmod n (Nat.pow 2 64)

/-- The smallest word. -/
def minWord : Int := -(Int.ofNat (Nat.pow 2 63))

/-- A truth value as a number. -/
def ofTruth (b : Bool) : Int := if b then 1 else 0

/-- The bits of a word, as an unsigned number below 2^64. -/
def unsignedWord (n : Int) : Nat := (n % Int.pow 2 64).toNat

/-- A word from the bits of an unsigned number. -/
def ofUnsigned (n : Nat) : Int := wrapWord n

/-- `base ** exp` on words, by squaring. -/
def wordPower (base : Int) (exp : Nat) : Int :=
  let rec go : Nat → Int → Int → Nat → Int
    | 0, result, _, _ => result
    | fuel + 1, result, b, e =>
        if e == 0 then result
        else
          let result := if e % 2 == 1 then wrapWord (result * b) else result
          go fuel result (wrapWord (b * b)) (e / 2)
  go 70 1 (wrapWord base) exp

/-- A shift count as the processor takes it: its low six bits. -/
def shiftCount (n : Int) : Nat := (n % 64).toNat

/-! ## Tokens -/

/-- The tokens of an expression. -/
inductive ArithToken where
  | finished
  | number
  | name
  | assign
  | opAssign
  | plus
  | minus
  | times
  | divide
  | modulo
  | power
  | shiftLeft
  | shiftRight
  | less
  | greater
  | lessEq
  | greaterEq
  | equal
  | notEqual
  | bitAnd
  | bitOr
  | bitXor
  | logAnd
  | logOr
  | bang
  | tilde
  | question
  | colon
  | comma
  | lparen
  | rparen
  | preInc
  | preDec
  | postInc
  | postDec
  | cond
  deriving DecidableEq, Repr, Inhabited

/-- Tokens of one character that count as operators. -/
def ArithToken.isSingleOp : ArithToken → Bool
  | .assign | .greater | .less | .plus | .minus | .times | .divide | .modulo | .bang
  | .lparen | .rparen | .bitAnd | .bitOr | .bitXor | .tilde | .question | .colon
  | .comma => true
  | _ => false

/-- Tokens of several characters that count as operators. -/
def ArithToken.isMultiOp : ArithToken → Bool
  | .equal | .notEqual | .lessEq | .greaterEq | .logAnd | .logOr | .shiftLeft
  | .shiftRight | .opAssign | .cond | .power | .preInc | .preDec | .postInc
  | .postDec => true
  | _ => false

/-- The token of a single character, if it is one. -/
def singleToken (c : Char) : Option ArithToken :=
  match c with
  | '=' => some .assign
  | '>' => some .greater
  | '<' => some .less
  | '+' => some .plus
  | '-' => some .minus
  | '*' => some .times
  | '/' => some .divide
  | '%' => some .modulo
  | '!' => some .bang
  | '(' => some .lparen
  | ')' => some .rparen
  | '&' => some .bitAnd
  | '|' => some .bitOr
  | '^' => some .bitXor
  | '~' => some .tilde
  | '?' => some .question
  | ':' => some .colon
  | ',' => some .comma
  | _ => none

/-- Blanks between tokens. -/
def isArithBlank (c : Char) : Bool := c == ' ' || c == '\t' || c == '\n'

/-- Letters and underscore, which start a name. -/
def isNameLead (c : Char) : Bool := c.isAlpha || c == '_'

/-- Letters, digits and underscore. -/
def isNameBody (c : Char) : Bool := c.isAlphanum || c == '_'

/-- The value of a digit in a base up to 64: digits, then lower case, then upper case
(the same as lower case in bases up to 36), then `@` and `_`. -/
def baseDigitValue (base : Nat) (c : Char) : Nat :=
  if c.isDigit then c.toNat - '0'.toNat
  else if 'a' ≤ c && c ≤ 'z' then c.toNat - 'a'.toNat + 10
  else if 'A' ≤ c && c ≤ 'Z' then c.toNat - 'A'.toNat + (if base ≤ 36 then 10 else 36)
  else if c == '@' then 62
  else 63

/-- Reads a number token: its value, or why it is not a number. -/
def readArithNumber (cs : List Char) : Except String Int :=
  let (base, found, body) : Nat × Bool × List Char :=
    match cs with
    | '0' :: x :: rest => if x == 'x' || x == 'X' then (16, true, rest) else (8, true, x :: rest)
    | '0' :: [] => (10, true, [])
    | _ => (10, false, cs)
  let step (acc : Except String (Nat × Bool × Int)) (c : Char) : Except String (Nat × Bool × Int) :=
    acc.bind fun (base, found, v) =>
      if c == '#' then
        if found then .error "invalid number"
        else if v < 2 || v > 64 then .error "invalid arithmetic base"
        else .ok (v.toNat, true, 0)
      else
        let d := baseDigitValue base c
        if d ≥ base then .error "value too great for base"
        else .ok (base, found, wrapWord (v * base + d))
  (body.foldl step (.ok (base, found, 0))).map (·.2.2)

/-! ## The evaluator -/

/-- A variable an assignment goes to: its name and, for an array, the element. -/
structure ArithTarget where
  name : String
  slot : Option Slot := none
  deriving DecidableEq, Repr, Inhabited

/-- Where reading stands: the expression, the position after the current token and the
start of the last token read, the current and previous token, the current number or
name, the operator of `op=`, how many enclosing operands are skipped, the variable of
the last name, and how deep evaluation is nested. -/
structure ArithCursor where
  text : Array Char := #[]
  pos : Nat := 0
  lastStart : Nat := 0
  cur : ArithToken := .finished
  last : ArithToken := .finished
  value : Int := 0
  nameText : String := ""
  assignOp : ArithToken := .plus
  skipping : Nat := 0
  target : Option ArithTarget := none
  depth : Nat := 0
  deriving Repr, Inhabited

/-- Evaluating arithmetic inside the shell. -/
abbrev ArithM := StateT ArithCursor (ExceptT ArithFailure ShellM)

/-- Fails with a message at the last token read. -/
def arithError {α : Type} (message : String) : ArithM α := do
  let c ← get
  let expr := String.ofList (c.text.toList.dropWhile (fun ch => ch == ' ' || ch == '\t'))
  let token := String.ofList (c.text.extract c.lastStart c.text.size).toList
  throw { expression := expr, message, token }

/-- How deep expressions may nest inside variables. -/
def arithDepthLimit : Nat := 1024

/-- The character at a position, or none past the end. -/
def ArithCursor.at (c : ArithCursor) (i : Nat) : Option Char := c.text[i]?

/-- The position of the `]` that closes a subscript opened just before `i`. -/
def closeSubscript (text : Array Char) : Nat → Nat → Nat → Option Nat
  | 0, _, _ => none
  | fuel + 1, i, depth =>
      match text[i]? with
      | none => none
      | some '[' => closeSubscript text fuel (i + 1) (depth + 1)
      | some ']' => if depth == 0 then some i else closeSubscript text fuel (i + 1) (depth - 1)
      | some _ => closeSubscript text fuel (i + 1) depth

/-- Applies a binary operator of an assignment `op=`. -/
def applyAssignOp (op : ArithToken) (a b : Int) : Int :=
  match op with
  | .times => wrapWord (a * b)
  | .divide => if a == minWord && b == -1 then minWord else wrapWord (a.tdiv b)
  | .modulo => if a == minWord && b == -1 then 0 else wrapWord (a.tmod b)
  | .plus => wrapWord (a + b)
  | .minus => wrapWord (a - b)
  | .shiftLeft => wrapWord (a * Int.pow 2 (shiftCount b))
  | .shiftRight => a / Int.pow 2 (shiftCount b)
  | .bitAnd => ofUnsigned (Nat.land (unsignedWord a) (unsignedWord b))
  | .bitOr => ofUnsigned (Nat.lor (unsignedWord a) (unsignedWord b))
  | .bitXor => ofUnsigned (Nat.xor (unsignedWord a) (unsignedWord b))
  | _ => b

/-- Assigns a value to a variable or element; a read-only one is reported and ends the
evaluation. -/
def arithAssign (t : ArithTarget) (v : Int) : ArithM Unit := do
  let s ← getShell
  let name := s.resolveName t.name
  let var := (s.vars.lookup name).getD {}
  if var.readOnly then
    complain (t.name ++ ": readonly variable")
    throw { expression := "", message := "", token := "", silent := true }
  match t.slot with
  | none => modifyShell (·.setVar name (toString v))
  | some slot =>
      match var.setElement slot (toString v) with
      | some var' => modifyShell (·.putVar name var')
      | none => pure ()

mutual

/-- Reads the next token, evaluating a name as it goes. -/
def readToken : Nat → ArithM Unit
  | 0 => arithError "expression recursion level exceeded"
  | fuel + 1 => do
      let c ← get
      let start := ((c.text.extract c.pos c.text.size).toList.takeWhile isArithBlank).length + c.pos
      match c.at start with
      | none =>
          set { c with last := c.cur, cur := .finished, pos := start }
      | some ch =>
          set { c with lastStart := start }
          if isNameLead ch then
            let nameEnd := ((c.text.extract start c.text.size).toList.takeWhile isNameBody).length + start
            let (tokEnd, sub) ← match c.at nameEnd with
              | some '[' =>
                  match closeSubscript c.text (c.text.size + 1) (nameEnd + 1) 0 with
                  | some close =>
                      pure (close + 1, some (String.ofList (c.text.extract (nameEnd + 1) close).toList))
                  | none => arithError "bad array subscript"
              | _ => pure (nameEnd, none)
            let name := String.ofList (c.text.extract start nameEnd).toList
            let tokText := String.ofList (c.text.extract start tokEnd).toList
            -- look at the next token without evaluating anything
            let saved ← get
            set { saved with pos := tokEnd, skipping := 1, cur := .name }
            readToken fuel
            let peek := (← get).cur
            set saved
            modify fun c => { c with target := none }
            let value ←
              if saved.last == .preInc || saved.last == .preDec || peek != .assign then
                valueOfName fuel name sub
              else pure 0
            modify fun c => { c with value, nameText := tokText, last := saved.cur, cur := .name,
                                     pos := tokEnd }
          else if ch.isDigit then
            let numEnd := ((c.text.extract start c.text.size).toList.takeWhile
              (fun d => d.isAlphanum || d == '#' || d == '@' || d == '_')).length + start
            match readArithNumber (c.text.extract start numEnd).toList with
            | .ok v => modify fun c => { c with value := v, last := c.cur, cur := .number, pos := numEnd }
            | .error msg =>
                -- the number is read from the expression cut off after it, so that is
                -- what the message shows
                let upTo := (c.text.extract 0 numEnd).toList.dropWhile fun ch => ch == ' ' || ch == '\t'
                throw { expression := String.ofList upTo, message := msg,
                        token := String.ofList (c.text.extract start numEnd).toList }
          else
            let c1 := c.at (start + 1)
            let c2 := c.at (start + 2)
            let two (t : ArithToken) : ArithM Unit :=
              modify fun c => { c with last := c.cur, cur := t, pos := start + 2 }
            let one (t : ArithToken) : ArithM Unit :=
              modify fun c => { c with last := c.cur, cur := t, pos := start + 1 }
            if ch == '=' && c1 == some '=' then two .equal
            else if ch == '!' && c1 == some '=' then two .notEqual
            else if ch == '>' && c1 == some '=' then two .greaterEq
            else if ch == '<' && c1 == some '=' then two .lessEq
            else if ch == '<' && c1 == some '<' then
              if c2 == some '=' then
                modify fun c => { c with last := c.cur, cur := .opAssign, assignOp := .shiftLeft, pos := start + 3 }
              else two .shiftLeft
            else if ch == '>' && c1 == some '>' then
              if c2 == some '=' then
                modify fun c => { c with last := c.cur, cur := .opAssign, assignOp := .shiftRight, pos := start + 3 }
              else two .shiftRight
            else if ch == '&' && c1 == some '&' then two .logAnd
            else if ch == '|' && c1 == some '|' then two .logOr
            else if ch == '*' && c1 == some '*' then two .power
            else if (ch == '-' || ch == '+') && c1 == some ch && c.cur == .name then
              two (if ch == '-' then .postDec else .postInc)
            else if (ch == '-' || ch == '+') && c1 == some ch && c.cur == .number &&
                (c.last == .preInc || c.last == .preDec) then
              arithError (if ch == '-' then "--: assignment requires lvalue" else "++: assignment requires lvalue")
            else if (ch == '-' || ch == '+') && c1 == some ch then
              let after := ((c.text.extract (start + 2) c.text.size).toList.dropWhile isArithBlank).head?
              if after.any isNameLead then two (if ch == '-' then .preDec else .preInc)
              else one (if ch == '-' then .minus else .plus)
            else if c1 == some '=' && "*/%+-&^|".toList.contains ch then
              modify fun c => { c with last := c.cur, cur := .opAssign,
                                       assignOp := (singleToken ch).getD .plus, pos := start + 2 }
            else
              match singleToken ch with
              | some t => one t
              | none =>
                  if c.cur == .finished || c.cur.isSingleOp || c.cur.isMultiOp then
                    arithError "syntax error: operand expected"
                  else arithError "syntax error: invalid arithmetic operator"

/-- The value of a name read in an expression: its text evaluated as an expression, zero
when unset or empty; nothing is read while operands are skipped. -/
def valueOfName : Nat → String → Option String → ArithM Int
  | 0, _, _ => arithError "expression recursion level exceeded"
  | fuel + 1, name, sub => do
      if (← get).skipping > 0 then return 0
      let s ← getShell
      let (text, slot) ← match sub with
        | none => pure (s.param name, none)
        | some subText =>
            if s.isAssoc name then pure (s.element? name (.key subText), some (Slot.key subText))
            else do
              let i ← subExpression fuel subText
              pure (s.element? name (.index i), some (Slot.index i))
      if text.isNone && s.nounset then
        complain (name ++ ": unbound variable")
        setStatus 127
        (throw .exit : ShellM Unit)
      let v ← match text with
        | some t => if t.isEmpty then pure 0 else subExpression fuel t
        | none => pure 0
      modify fun c => { c with target := some { name, slot } }
      pure v

/-- The variable or element a name token assigns to: the one its evaluation found, or
the one its text names, with the subscript evaluated now. -/
def resolveTarget : Nat → ArithM ArithTarget
  | 0 => arithError "expression recursion level exceeded"
  | fuel + 1 => do
      let c ← get
      match c.target with
      | some t => pure t
      | none =>
          let cs := c.nameText.toList
          match cs.idxOf? '[' with
          | none => pure { name := c.nameText }
          | some k =>
              let name := String.ofList (cs.take k)
              let sub := String.ofList ((cs.drop (k + 1)).dropLast)
              let s ← getShell
              if s.isAssoc name then pure { name, slot := some (.key sub) }
              else
                let i ← subExpression fuel sub
                pure { name, slot := some (.index i) }

/-- Evaluates a text as an expression of its own, then goes back to the one being read;
blank text is zero. -/
def subExpression : Nat → String → ArithM Int
  | 0, _ => arithError "expression recursion level exceeded"
  | fuel + 1, text => do
      if text.all isArithBlank then return 0
      let outer ← get
      if outer.depth ≥ arithDepthLimit then arithError "expression recursion level exceeded"
      set ({ text := text.toList.toArray, depth := outer.depth + 1, skipping := outer.skipping } :
        ArithCursor)
      readToken fuel
      let v ← commaLevel fuel
      if (← get).cur != .finished then arithError "syntax error in expression"
      set outer
      pure v

/-- `a, b`. -/
def commaLevel : Nat → ArithM Int
  | 0 => arithError "expression recursion level exceeded"
  | fuel + 1 => do
      let mut v ← assignLevel fuel
      for _ in [0:(← get).text.size + 1] do
        if (← get).cur != .comma then break
        readToken fuel
        v ← assignLevel fuel
      pure v

/-- `name = value` and `name op= value`, grouping to the right. -/
def assignLevel : Nat → ArithM Int
  | 0 => arithError "expression recursion level exceeded"
  | fuel + 1 => do
      let v ← condLevel fuel
      let c ← get
      if c.cur != .assign && c.cur != .opAssign then return v
      let special := c.cur == .opAssign
      if c.last != .name then arithError "attempted assignment to non-variable"
      if c.nameText.isEmpty then arithError "syntax error in variable assignment"
      let op := c.assignOp
      let target ← resolveTarget fuel
      readToken fuel
      let rhs ← assignLevel fuel
      let result ←
        if special then
          if (op == .divide || op == .modulo) && rhs == 0 then
            if (← get).skipping == 0 then arithError "division by 0"
            else pure (applyAssignOp op v 1)
          else pure (applyAssignOp op v rhs)
        else pure rhs
      if (← get).skipping == 0 then arithAssign target result
      modify fun c => { c with nameText := "" }
      pure result

/-- `c ? a : b`. -/
def condLevel : Nat → ArithM Int
  | 0 => arithError "expression recursion level exceeded"
  | fuel + 1 => do
      let c ← orLevel fuel
      if (← get).cur != .question then return c
      modify fun s => { s with last := .finished }
      readToken fuel
      let t := (← get).cur
      if t == .finished || t == .colon then arithError "expression expected"
      if c == 0 then modify fun s => { s with skipping := s.skipping + 1 }
      let a ← commaLevel fuel
      if c == 0 then modify fun s => { s with skipping := s.skipping - 1 }
      if (← get).cur != .colon then arithError "`:' expected for conditional expression"
      if c != 0 then modify fun s => { s with skipping := s.skipping + 1 }
      modify fun s => { s with last := .finished }
      readToken fuel
      if (← get).cur == .finished then arithError "expression expected"
      let b ← condLevel fuel
      if c != 0 then modify fun s => { s with skipping := s.skipping - 1 }
      modify fun s => { s with last := .cond }
      pure (if c != 0 then a else b)

/-- `a || b`: `b` is skipped when `a` is true. -/
def orLevel : Nat → ArithM Int
  | 0 => arithError "expression recursion level exceeded"
  | fuel + 1 => do
      let mut v ← andLevel fuel
      for _ in [0:(← get).text.size + 1] do
        if (← get).cur != .logOr then break
        let skip := v != 0
        if skip then modify fun s => { s with skipping := s.skipping + 1 }
        readToken fuel
        let w ← andLevel fuel
        if skip then modify fun s => { s with skipping := s.skipping - 1 }
        v := ofTruth (v != 0 || w != 0)
        modify fun s => { s with last := .logOr }
      pure v

/-- `a && b`: `b` is skipped when `a` is false. -/
def andLevel : Nat → ArithM Int
  | 0 => arithError "expression recursion level exceeded"
  | fuel + 1 => do
      let mut v ← binaryLevel fuel 0
      for _ in [0:(← get).text.size + 1] do
        if (← get).cur != .logAnd then break
        let skip := v == 0
        if skip then modify fun s => { s with skipping := s.skipping + 1 }
        readToken fuel
        let w ← binaryLevel fuel 0
        if skip then modify fun s => { s with skipping := s.skipping - 1 }
        v := ofTruth (v != 0 && w != 0)
        modify fun s => { s with last := .logAnd }
      pure v

/-- The binary operators from `|` (level 0) to `+` and `-` (level 6), grouping to the
left; level 7 is `*`, `/` and `%`. -/
def binaryLevel : Nat → Nat → ArithM Int
  | 0, _ => arithError "expression recursion level exceeded"
  | fuel + 1, level => do
      if level ≥ 7 then return (← productLevel fuel)
      let ops : List ArithToken := match level with
        | 0 => [.bitOr]
        | 1 => [.bitXor]
        | 2 => [.bitAnd]
        | 3 => [.equal, .notEqual]
        | 4 => [.lessEq, .greaterEq, .less, .greater]
        | 5 => [.shiftLeft, .shiftRight]
        | _ => [.plus, .minus]
      let mut v ← binaryLevel fuel (level + 1)
      for _ in [0:(← get).text.size + 1] do
        let op := (← get).cur
        if !ops.contains op then break
        readToken fuel
        let w ← binaryLevel fuel (level + 1)
        v := match op with
          | .bitOr => ofUnsigned (Nat.lor (unsignedWord v) (unsignedWord w))
          | .bitXor => ofUnsigned (Nat.xor (unsignedWord v) (unsignedWord w))
          | .bitAnd => ofUnsigned (Nat.land (unsignedWord v) (unsignedWord w))
          | .equal => ofTruth (v == w)
          | .notEqual => ofTruth (v != w)
          | .lessEq => ofTruth (v ≤ w)
          | .greaterEq => ofTruth (v ≥ w)
          | .less => ofTruth (v < w)
          | .greater => ofTruth (v > w)
          | .shiftLeft => wrapWord (v * Int.pow 2 (shiftCount w))
          | .shiftRight => v / Int.pow 2 (shiftCount w)
          | .plus => wrapWord (v + w)
          | _ => wrapWord (v - w)
        modify fun s => { s with last := .number }
      pure v

/-- `a * b`, `a / b`, `a % b`; a division by zero names the text after the operator. -/
def productLevel : Nat → ArithM Int
  | 0 => arithError "expression recursion level exceeded"
  | fuel + 1 => do
      let mut v ← powerLevel fuel
      for _ in [0:(← get).text.size + 1] do
        let c ← get
        let op := c.cur
        if op != .times && op != .divide && op != .modulo then break
        let afterOp := c.pos
        readToken fuel
        let mut w ← powerLevel fuel
        if (op == .divide || op == .modulo) && w == 0 then
          if (← get).skipping == 0 then
            let s ← get
            let from_ := ((s.text.extract afterOp s.text.size).toList.takeWhile
              (fun ch => ch == ' ' || ch == '\t')).length + afterOp
            set { s with lastStart := from_ }
            arithError "division by 0"
          else w := 1
        if op == .modulo && v == minWord && w == -1 then v := 0
        else if op == .divide && v == minWord && w == -1 then v := minWord
        else
          v := match op with
            | .times => wrapWord (v * w)
            | .divide => wrapWord (v.tdiv w)
            | _ => wrapWord (v.tmod w)
        modify fun s => { s with last := .number }
      pure v

/-- `a ** b`, grouping to the right. -/
def powerLevel : Nat → ArithM Int
  | 0 => arithError "expression recursion level exceeded"
  | fuel + 1 => do
      let base ← unaryLevel fuel
      if (← get).cur != .power then return base
      readToken fuel
      let e ← powerLevel fuel
      modify fun s => { s with last := .number }
      if e == 0 then return 1
      if e < 0 then arithError "exponent less than 0"
      pure (wordPower base e.toNat)

/-- `!a`, `~a`, `-a`, `+a`. -/
def unaryLevel : Nat → ArithM Int
  | 0 => arithError "expression recursion level exceeded"
  | fuel + 1 => do
      match (← get).cur with
      | .bang =>
          readToken fuel
          let v ← unaryLevel fuel
          modify fun s => { s with last := .number }
          pure (ofTruth (v == 0))
      | .tilde =>
          readToken fuel
          let v ← unaryLevel fuel
          modify fun s => { s with last := .number }
          pure (wrapWord (-v - 1))
      | .minus =>
          readToken fuel
          let v ← unaryLevel fuel
          modify fun s => { s with last := .number }
          pure (wrapWord (-v))
      | .plus =>
          readToken fuel
          let v ← unaryLevel fuel
          modify fun s => { s with last := .number }
          pure v
      | _ => primary fuel

/-- Increments, parentheses, numbers and names. -/
def primary : Nat → ArithM Int
  | 0 => arithError "expression recursion level exceeded"
  | fuel + 1 => do
      let c ← get
      match c.cur with
      | .preInc | .preDec =>
          let up := c.cur == .preInc
          modify fun s => { s with last := s.cur }
          readToken fuel
          if (← get).cur != .name then
            arithError "identifier expected after pre-increment or pre-decrement"
          let s ← get
          let v := wrapWord (s.value + (if up then 1 else -1))
          if s.skipping == 0 then arithAssign (← resolveTarget fuel) v
          modify fun s => { s with cur := .number }
          readToken fuel
          pure v
      | .lparen =>
          readToken fuel
          let v ← commaLevel fuel
          if (← get).cur != .rparen then arithError "missing `)'"
          readToken fuel
          pure v
      | .number =>
          let v := c.value
          readToken fuel
          pure v
      | .name =>
          let v := c.value
          let saved ← get
          set { saved with nameText := "", skipping := 1 }
          readToken fuel
          let t := (← get).cur
          if t == .postInc || t == .postDec then
            modify fun s => { s with nameText := saved.nameText, skipping := saved.skipping,
                                     target := saved.target, last := .name }
            let s ← get
            let next := wrapWord (v + (if t == .postInc then 1 else -1))
            if s.skipping == 0 then arithAssign (← resolveTarget fuel) next
            modify fun s => { s with cur := .number }
          else set saved
          readToken fuel
          pure v
      | _ => arithError "syntax error: operand expected"

end

/-- Fuel for evaluation: enough for the deepest nesting allowed. -/
def arithFuel : Nat := 40000

/-- Evaluates an expression's text against the shell's variables, making its
assignments; blank text is zero. -/
def evalArith (text : String) : ShellM (Except ArithFailure Int) := do
  let act : ArithM Int := subExpression arithFuel text
  match ← ((act.run {}).run) with
  | .ok (v, _) => pure (.ok v)
  | .error e => pure (.error e)

/-- Reports an arithmetic failure, after the name of the command that evaluated it. -/
def reportArith (commandName : String) (f : ArithFailure) : ShellM Unit := do
  if !f.silent then
    complain ((if commandName.isEmpty then "" else commandName ++ ": ") ++ f.text)

end BuildWorker.Shell
