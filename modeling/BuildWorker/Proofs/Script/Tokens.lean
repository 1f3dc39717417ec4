import BuildWorker.Shell.Quote
/-!
# Reading shell text into tokens

The POSIX shell reads a script in two stages before it runs anything: it cuts the text
into tokens (XCU 2.3, token recognition), and it takes the quotes out of each word
(XCU 2.6.7, quote removal).  This module gives both stages as one machine that reads
one character at a time, `Posix.step`, and states what it does on the pieces of text a
generated script is made of.

A token is a word, an operator or a newline.  A word is read as *pieces*: characters
that stand for themselves once the quotes are gone, and expansions (`$name`, `$?`,
`${...}`, `$(...)`, a backquoted command) that the shell performs when it runs the
word, each kept as written with whether it stood inside double quotes.  A word whose
pieces are all literal is a fixed string: nothing in it is ever parsed or expanded.

The rules, in the order token recognition applies them:

* an operator (`&&`, `||`, `;;`, `<<`, `>>`, `<&`, `>&`, `<>`, `<<-`, `>|` and the
  single characters `&|;<>()`) grows while it stays an operator;
* a backslash outside quotes keeps the next character (and with a newline, removes
  both); single quotes keep everything up to the next single quote; inside double
  quotes, a backslash keeps a following `$`, backquote, `"`, backslash or newline, and
  `$` and the backquote still start expansions;
* an unquoted blank ends a word, an unquoted newline ends it and is a token, an
  unquoted operator character ends it and starts an operator;
* a `#` that starts a token starts a comment, which runs up to the newline.

The main facts are `Posix.run_append` (reading is a left-to-right pass),
`Posix.run_comment`, `Posix.run_double_literals` and `Posix.run_word_quoteChars`: a
quoted word from `Shell.quoteChars` reads back as exactly the characters it quotes.
-/

set_option autoImplicit false

namespace BuildWorker.Posix

/-! ## Tokens -/

/-- A piece of a word once its quotes are removed. -/
inductive Piece where
  /-- A character that stands for itself. -/
  | literal (c : Char)
  /-- An expansion, as written, and whether it stood inside double quotes. -/
  | expansion (quoted : Bool) (text : List Char)
  deriving DecidableEq, Repr

/-- The pieces of a text whose characters all stand for themselves. -/
def literals (cs : List Char) : List Piece := cs.map .literal

@[simp] theorem literals_nil : literals [] = [] := rfl

@[simp] theorem literals_append (xs ys : List Char) :
    literals (xs ++ ys) = literals xs ++ literals ys := List.map_append

@[simp] theorem literals_cons (c : Char) (cs : List Char) :
    literals (c :: cs) = .literal c :: literals cs := rfl

/-- A token of shell text. -/
inductive Token where
  | word (pieces : List Piece)
  | operator (text : List Char)
  | newline
  deriving DecidableEq, Repr

/-- A word that is exactly a text, with nothing expanded. -/
def Token.text (s : String) : Token := .word (literals s.toList)

/-- The operator written as a text. -/
def Token.op (s : String) : Token := .operator s.toList

/-! ## Classes of characters -/

/-- Blanks separate words. -/
def isBlank (c : Char) : Bool := c == ' ' || c == '\t'

/-- The characters that start an operator. -/
def isOperatorStart (c : Char) : Bool :=
  c == '&' || c == '|' || c == ';' || c == '<' || c == '>' || c == '(' || c == ')'

/-- Whether a text is one of the operators of the shell's grammar (XCU 2.10.1); every
prefix of an operator is one too. -/
def isOperator : List Char → Bool
  | [c] => isOperatorStart c
  | ['&', '&'] | ['|', '|'] | [';', ';'] | ['<', '<'] | ['>', '>'] | ['<', '&'] | ['>', '&']
  | ['<', '>'] | ['>', '|'] | ['<', '<', '-'] => true
  | _ => false

/-- A character that may start a name. -/
def isNameStart (c : Char) : Bool := c == '_' || c.isAlpha

/-- A character that may continue a name. -/
def isNameChar (c : Char) : Bool := c == '_' || c.isAlphanum

/-- The characters that follow `$` as a parameter of their own: positional and
special parameters. -/
def isSpecialParameter (c : Char) : Bool :=
  c.isDigit || c == '@' || c == '*' || c == '#' || c == '?' || c == '-' || c == '$' || c == '!'

/-- Characters that, inside a word and outside quotes, only add themselves. -/
def isWordLiteral (c : Char) : Bool :=
  !(isBlank c || c == '\n' || isOperatorStart c || c == '\'' || c == '"' || c == '\\' ||
    c == '$' || c == '`')

/-- Characters that, inside double quotes, only add themselves. -/
def isDoubleLiteral (c : Char) : Bool :=
  !(c == '"' || c == '\\' || c == '$' || c == '`')

/-! ## The reading machine -/

/-- Where reading stands between two characters. -/
inductive Reading where
  /-- Between tokens. -/
  | between
  /-- Inside a comment. -/
  | comment
  /-- Inside an operator. -/
  | operator (text : List Char)
  /-- Inside a word, outside quotes. -/
  | word (pieces : List Piece)
  /-- Inside single quotes. -/
  | single (pieces : List Piece)
  /-- Inside double quotes. -/
  | double (pieces : List Piece)
  /-- After a backslash outside quotes, inside a word or, with none, before one. -/
  | escape (pieces : Option (List Piece))
  /-- After a backslash inside double quotes. -/
  | doubleEscape (pieces : List Piece)
  /-- After a `$`. -/
  | dollar (quoted : Bool) (pieces : List Piece)
  /-- Inside a `$name`. -/
  | name (quoted : Bool) (pieces : List Piece) (text : List Char)
  /-- Inside a `${...}`. -/
  | braced (quoted : Bool) (pieces : List Piece) (text : List Char)
  /-- Inside a `$(...)`, with the parentheses opened inside it still to close. -/
  | substitution (quoted : Bool) (pieces : List Piece) (text : List Char) (depth : Nat)
  /-- Inside a backquoted command. -/
  | backquoted (quoted : Bool) (pieces : List Piece) (text : List Char)
  deriving DecidableEq, Repr

/-- Back inside the word, in or out of double quotes, after an expansion. -/
def Reading.inWord (quoted : Bool) (pieces : List Piece) : Reading :=
  if quoted then .double pieces else .word pieces

/-- A character that continues a word, outside quotes. -/
def continueWord (pieces : List Piece) (c : Char) : Reading :=
  if c == '\'' then .single pieces
  else if c == '"' then .double pieces
  else if c == '\\' then .escape (some pieces)
  else if c == '$' then .dollar false pieces
  else if c == '`' then .backquoted false pieces []
  else .word (pieces ++ [.literal c])

/-- A character between tokens. -/
def startChar (c : Char) : Reading × List Token :=
  if isBlank c then (.between, [])
  else if c == '\n' then (.between, [.newline])
  else if c == '#' then (.comment, [])
  else if isOperatorStart c then (.operator [c], [])
  else if c == '\\' then (.escape none, [])
  else (continueWord [] c, [])

/-- A character inside a word, outside quotes: a delimiter ends the word. -/
def wordChar (pieces : List Piece) (c : Char) : Reading × List Token :=
  if isBlank c then (.between, [.word pieces])
  else if c == '\n' then (.between, [.word pieces, .newline])
  else if isOperatorStart c then (.operator [c], [.word pieces])
  else (continueWord pieces c, [])

/-- A character inside double quotes. -/
def doubleChar (pieces : List Piece) (c : Char) : Reading :=
  if c == '"' then .word pieces
  else if c == '\\' then .doubleEscape pieces
  else if c == '$' then .dollar true pieces
  else if c == '`' then .backquoted true pieces []
  else .double (pieces ++ [.literal c])

/-- A character read again where an expansion ended before it. -/
def resume (quoted : Bool) (pieces : List Piece) (c : Char) : Reading × List Token :=
  if quoted then (doubleChar pieces c, []) else wordChar pieces c

/-- One character: where reading stands after it, and the tokens it completes. -/
def step : Reading → Char → Reading × List Token
  | .between, c => startChar c
  | .comment, c => if c == '\n' then (.between, [.newline]) else (.comment, [])
  | .operator op, c =>
      if isOperator (op ++ [c]) then (.operator (op ++ [c]), [])
      else ((startChar c).1, .operator op :: (startChar c).2)
  | .word pieces, c => wordChar pieces c
  | .single pieces, c =>
      if c == '\'' then (.word pieces, []) else (.single (pieces ++ [.literal c]), [])
  | .double pieces, c => (doubleChar pieces c, [])
  | .escape pieces, c =>
      if c == '\n' then
        (match pieces with
         | some p => .word p
         | none => .between, [])
      else (.word (pieces.getD [] ++ [.literal c]), [])
  | .doubleEscape pieces, c =>
      if c == '\n' then (.double pieces, [])
      else if c == '$' || c == '`' || c == '"' || c == '\\' then
        (.double (pieces ++ [.literal c]), [])
      else (.double (pieces ++ [.literal '\\', .literal c]), [])
  | .dollar quoted pieces, c =>
      if c == '{' then (.braced quoted pieces [], [])
      else if c == '(' then (.substitution quoted pieces [] 0, [])
      else if isNameStart c then (.name quoted pieces [c], [])
      else if isSpecialParameter c then
        (Reading.inWord quoted (pieces ++ [.expansion quoted ['$', c]]), [])
      else resume quoted (pieces ++ [.literal '$']) c
  | .name quoted pieces text, c =>
      if isNameChar c then (.name quoted pieces (text ++ [c]), [])
      else resume quoted (pieces ++ [.expansion quoted ('$' :: text)]) c
  | .braced quoted pieces text, c =>
      if c == '}' then
        (Reading.inWord quoted (pieces ++ [.expansion quoted (['$', '{'] ++ text ++ ['}'])]), [])
      else (.braced quoted pieces (text ++ [c]), [])
  | .substitution quoted pieces text depth, c =>
      if c == ')' then
        match depth with
        | 0 => (Reading.inWord quoted (pieces ++ [.expansion quoted (['$', '('] ++ text ++ [')'])]), [])
        | d + 1 => (.substitution quoted pieces (text ++ [c]) d, [])
      else if c == '(' then (.substitution quoted pieces (text ++ [c]) (depth + 1), [])
      else (.substitution quoted pieces (text ++ [c]) depth, [])
  | .backquoted quoted pieces text, c =>
      if c == '`' then
        (Reading.inWord quoted (pieces ++ [.expansion quoted ('`' :: text ++ ['`'])]), [])
      else (.backquoted quoted pieces (text ++ [c]), [])

/-- Reads characters: where reading stands after them, and the tokens they complete. -/
def run : Reading → List Char → Reading × List Token
  | r, [] => (r, [])
  | r, c :: cs => ((run (step r c).1 cs).1, (step r c).2 ++ (run (step r c).1 cs).2)

/-- The end of the text ends the token being read; a quote or an expansion left open
is an error. -/
def finish : Reading → Option (List Token)
  | .between | .comment => some []
  | .operator op => some [.operator op]
  | .word pieces => some [.word pieces]
  | .escape pieces => some [.word (pieces.getD [] ++ [.literal '\\'])]
  | .dollar false pieces => some [.word (pieces ++ [.literal '$'])]
  | .name false pieces text => some [.word (pieces ++ [.expansion false ('$' :: text)])]
  | _ => none

/-- The tokens of a text, or none when a quote or an expansion is left open. -/
def readTokens (cs : List Char) : Option (List Token) :=
  (finish (run .between cs).1).map ((run .between cs).2 ++ ·)

/-! ## Reading is one pass from left to right -/

theorem run_cons (r : Reading) (c : Char) (cs : List Char) :
    run r (c :: cs) = ((run (step r c).1 cs).1, (step r c).2 ++ (run (step r c).1 cs).2) := rfl

/-- Reading two texts one after the other is reading the first, then the second from
where the first left off. -/
theorem run_append (r : Reading) (xs ys : List Char) :
    run r (xs ++ ys) =
      ((run (run r xs).1 ys).1, (run r xs).2 ++ (run (run r xs).1 ys).2) := by
  induction xs generalizing r with
  | nil => rfl
  | cons c cs ih => simp [run_cons, ih]

theorem run_append_of {r r₁ r₂ : Reading} {xs ys : List Char} {o₁ o₂ : List Token}
    (first : run r xs = (r₁, o₁)) (second : run r₁ ys = (r₂, o₂)) :
    run r (xs ++ ys) = (r₂, o₁ ++ o₂) := by
  rw [run_append, first]
  simp [second]

theorem run_cons_of {r r₁ r₂ : Reading} {c : Char} {cs : List Char} {o₁ o₂ : List Token}
    (first : step r c = (r₁, o₁)) (second : run r₁ cs = (r₂, o₂)) :
    run r (c :: cs) = (r₂, o₁ ++ o₂) := by
  rw [run_cons, first]
  simp [second]

/-- A text that is read from between tokens back to between tokens, completing
exactly the given tokens. -/
def Reads (cs : List Char) (ts : List Token) : Prop :=
  run .between cs = (.between, ts)

instance (cs : List Char) (ts : List Token) : Decidable (Reads cs ts) :=
  inferInstanceAs (Decidable (run .between cs = (.between, ts)))

theorem Reads.append {xs ys : List Char} {ts us : List Token} (first : Reads xs ts)
    (second : Reads ys us) : Reads (xs ++ ys) (ts ++ us) :=
  run_append_of first second

theorem Reads.nil : Reads [] [] := rfl

theorem Reads.flatMap {α : Type} (l : List α) (text : α → List Char) (tokens : α → List Token)
    (each : ∀ a ∈ l, Reads (text a) (tokens a)) : Reads (l.flatMap text) (l.flatMap tokens) := by
  induction l with
  | nil => exact Reads.nil
  | cons a rest ih =>
      simp only [List.flatMap_cons]
      exact (each a (by simp)).append (ih fun b hb => each b (by simp [hb]))

/-- A text read back to between tokens leaves nothing open at its end. -/
theorem readTokens_of_reads {cs : List Char} {ts : List Token} (h : Reads cs ts) :
    readTokens cs = some ts := by
  unfold Reads at h
  simp [readTokens, h, finish]

/-- A string literal is the characters it is written with. -/
theorem toList_literal {s : String} {l : List Char} (hs : String.ofList l = s) : s.toList = l := by
  rw [← hs, String.toList_ofList]

/-- Reading a string literal is reading the characters it is written with. -/
theorem run_literal {r : Reading} {s : String} {l : List Char} {x : Reading × List Token}
    (hs : String.ofList l = s) (h : run r l = x) : run r s.toList = x := by
  rw [toList_literal hs]
  exact h

/-! ## Words -/

/-- A text that, read between tokens, is one word of characters that stand for
themselves: it is not empty, does not start a comment, and holds no quote, escape,
expansion or delimiter. -/
def IsBareWord (cs : List Char) : Prop :=
  cs ≠ [] ∧ cs.head? ≠ some '#' ∧ cs.all isWordLiteral = true

instance (cs : List Char) : Decidable (IsBareWord cs) :=
  inferInstanceAs (Decidable (_ ∧ _ ∧ _))

/-- Characters that are not quotes, escapes, expansions or delimiters add themselves to
the word. -/
theorem run_word_literals {cs : List Char} (h : ∀ c ∈ cs, isWordLiteral c = true)
    (pieces : List Piece) : run (.word pieces) cs = (.word (pieces ++ literals cs), []) := by
  induction cs generalizing pieces with
  | nil => simp [run]
  | cons c rest ih =>
      have hc := h c (by simp)
      have hstep : step (.word pieces) c = (.word (pieces ++ [.literal c]), []) := by
        simp only [isWordLiteral, Bool.not_or, Bool.and_eq_true, Bool.not_eq_true'] at hc
        simp [step, wordChar, continueWord, hc]
      rw [run_cons_of hstep (ih (fun d hd => h d (by simp [hd])) _)]
      simp

/-- A blank ends the word being read. -/
theorem run_word_blank {pieces : List Piece} {cs : List Char} {r : Reading} {ts : List Token}
    (h : run .between cs = (r, ts)) : run (.word pieces) (' ' :: cs) = (r, .word pieces :: ts) := by
  have hstep : step (.word pieces) ' ' = (.between, [.word pieces]) := rfl
  rw [run_cons_of hstep h]
  rfl

/-- An operator character ends the word being read, and starts an operator. -/
theorem run_word_operator {pieces : List Piece} {c : Char} {cs : List Char} {r : Reading}
    {ts : List Token} (hc : isBlank c = false ∧ c ≠ '\n' ∧ isOperatorStart c = true)
    (h : run (.operator [c]) cs = (r, ts)) :
    run (.word pieces) (c :: cs) = (r, .word pieces :: ts) := by
  obtain ⟨hblank, hnl, hop⟩ := hc
  have hstep : step (.word pieces) c = (.operator [c], [.word pieces]) := by
    simp [step, wordChar, hblank, hnl, hop]
  rw [run_cons_of hstep h]
  rfl

/-- Between tokens, a character that starts a word reads as it does in an empty word. -/
theorem run_between_eq_word {c : Char} (h : step .between c = step (.word []) c)
    (cs : List Char) : run .between (c :: cs) = run (.word []) (c :: cs) := by
  simp only [run_cons, h]

/-- Between tokens, a bare word reads as itself. -/
theorem run_between_bareWord {cs : List Char} (h : IsBareWord cs) :
    run .between cs = (.word (literals cs), []) := by
  obtain ⟨hne, hhash, hall⟩ := h
  have hlits := List.all_eq_true.mp hall
  obtain ⟨c, rest, rfl⟩ := List.exists_cons_of_ne_nil hne
  have hc : c ≠ '#' := fun hc => hhash (by simp [hc])
  have hlit := hlits c (by simp)
  have hstep : step .between c = step (.word []) c := by
    simp only [isWordLiteral, Bool.not_or, Bool.and_eq_true, Bool.not_eq_true'] at hlit
    simp [step, startChar, wordChar, hlit, hc]
  rw [run_between_eq_word hstep, run_word_literals hlits]
  rfl

/-! ## Quoted words -/

/-- Inside single quotes, the body that `Shell.quoteBody` writes reads back as the
characters it quotes: a quote or an exclamation mark closes the quotes, is escaped and
opens them again. -/
theorem run_single_quoteBody (cs : List Char) (pieces : List Piece) :
    run (.single pieces) (Shell.quoteBody cs) = (.single (pieces ++ literals cs), []) := by
  induction cs generalizing pieces with
  | nil => simp [Shell.quoteBody, run]
  | cons c rest ih =>
      by_cases hspecial : (c == '\'' || c == '!') = true
      · have hnl : c ≠ '\n' := by
          rintro rfl
          simp at hspecial
        have hstep : run (.single pieces) ['\'', '\\', c, '\''] =
            (.single (pieces ++ [.literal c]), []) := by
          simp [run, step, wordChar, continueWord, isBlank, isOperatorStart, hnl]
        have hbody : Shell.quoteBody (c :: rest) = ['\'', '\\', c, '\''] ++ Shell.quoteBody rest := by
          simp [Shell.quoteBody, hspecial]
        rw [hbody, run_append_of hstep (ih _)]
        simp
      · have hq : c ≠ '\'' := by
          rintro rfl
          simp at hspecial
        have hstep : step (.single pieces) c = (.single (pieces ++ [.literal c]), []) := by
          simp [step, hq]
        have hbody : Shell.quoteBody (c :: rest) = c :: Shell.quoteBody rest := by
          simp [Shell.quoteBody, hspecial]
        rw [hbody, run_cons_of hstep (ih _)]
        simp

theorem char_le_iff_toNat_le {a b : Char} : a ≤ b ↔ a.toNat ≤ b.toNat := by
  rw [Char.le_def, UInt32.le_iff_toNat_le]
  rfl

/-- A character that never needs quoting only adds itself to a word, and never starts a
comment. -/
theorem isWordLiteral_of_isSafeChar {c : Char} (h : Shell.isSafeChar c = true) :
    isWordLiteral c = true ∧ c ≠ '#' := by
  simp only [Shell.isSafeChar, Bool.or_eq_true, Bool.and_eq_true, decide_eq_true_eq, beq_iff_eq,
    char_le_iff_toNat_le, ← Char.toNat_inj, Char.reduceToNat] at h
  simp only [isWordLiteral, isBlank, isOperatorStart, Bool.not_or, Bool.and_eq_true, Bool.not_eq_true',
    beq_eq_false_iff_ne, ne_eq, ← Char.toNat_inj, Char.reduceToNat]
  omega

/-- **A quoted word reads back as exactly the characters it quotes**, added to the word
being read. -/
theorem run_word_quoteChars (cs : List Char) (pieces : List Piece) :
    run (.word pieces) (Shell.quoteChars cs) = (.word (pieces ++ literals cs), []) := by
  unfold Shell.quoteChars
  split
  next hplain =>
    -- a plain word is made of characters that need no quoting
    simp only [Shell.isPlainWord, Bool.and_eq_true, List.all_eq_true] at hplain
    exact run_word_literals (fun c hc => (isWordLiteral_of_isSafeChar (hplain.2 c hc)).1) pieces
  next =>
    have hopen : step (.word pieces) '\'' = (.single pieces, []) := rfl
    have hclose : run (.single (pieces ++ literals cs)) ['\''] = (.word (pieces ++ literals cs), []) :=
      rfl
    rw [List.cons_append, run_cons_of hopen (run_append_of (run_single_quoteBody cs pieces) hclose)]
    rfl

/-- A text that needs no quoting is a bare word. -/
theorem isBareWord_of_isPlainWord {cs : List Char} (h : Shell.isPlainWord cs = true) :
    IsBareWord cs := by
  simp only [Shell.isPlainWord, Bool.and_eq_true, List.all_eq_true, Bool.not_eq_true',
    List.isEmpty_eq_false_iff] at h
  obtain ⟨hne, hsafe⟩ := h
  refine ⟨hne, ?_, List.all_eq_true.mpr fun c hc => (isWordLiteral_of_isSafeChar (hsafe c hc)).1⟩
  obtain ⟨c, rest, rfl⟩ := List.exists_cons_of_ne_nil hne
  simpa using (isWordLiteral_of_isSafeChar (hsafe c (by simp))).2

/-- Between tokens, a quoted word starts a word. -/
theorem run_between_quoteChars (cs : List Char) :
    run .between (Shell.quoteChars cs) = (.word (literals cs), []) := by
  by_cases hplain : Shell.isPlainWord cs = true
  · have hquote : Shell.quoteChars cs = cs := by simp [Shell.quoteChars, hplain]
    rw [hquote, run_between_bareWord (isBareWord_of_isPlainWord hplain)]
  · -- a quoted word opens with a quote, as it would inside a word
    have hquote : Shell.quoteChars cs = '\'' :: (Shell.quoteBody cs ++ ['\'']) := by
      simp [Shell.quoteChars, hplain]
    rw [hquote, run_between_eq_word rfl, ← hquote, run_word_quoteChars]
    rfl

/-! ## Comments and double quotes -/

/-- A comment runs to the next newline. -/
theorem run_comment {cs : List Char} (h : '\n' ∉ cs) : run .comment cs = (.comment, []) := by
  induction cs with
  | nil => rfl
  | cons c rest ih =>
      have hc : c ≠ '\n' := fun hc => h (by simp [hc])
      have hstep : step .comment c = (.comment, []) := by simp [step, hc]
      rw [run_cons_of hstep (ih fun hr => h (by simp [hr]))]
      rfl

/-- Inside double quotes, characters other than the quote, the backslash, `$` and the
backquote stand for themselves. -/
theorem run_double_literals {cs : List Char} (h : ∀ c ∈ cs, isDoubleLiteral c = true)
    (pieces : List Piece) : run (.double pieces) cs = (.double (pieces ++ literals cs), []) := by
  induction cs generalizing pieces with
  | nil => simp [run]
  | cons c rest ih =>
      have hc := h c (by simp)
      have hstep : step (.double pieces) c = (.double (pieces ++ [.literal c]), []) := by
        simp only [isDoubleLiteral, Bool.not_or, Bool.and_eq_true, Bool.not_eq_true'] at hc
        simp [step, doubleChar, hc]
      rw [run_cons_of hstep (ih (fun d hd => h d (by simp [hd])) _)]
      simp

end BuildWorker.Posix
