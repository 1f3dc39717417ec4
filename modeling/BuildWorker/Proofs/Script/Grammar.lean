import BuildWorker.Proofs.Script.Tokens
/-!
# Reading tokens into commands

After token recognition the shell reads the tokens by its grammar (XCU 2.10) into
commands, and only then runs them.  This module gives the part of the grammar that build
scripts are written in:

* a simple command is its words, the first one the command's name;
* `! c` inverts the status of `c`, and `a && b`, `a || b` join commands left to right;
* a list is commands ended by newlines or `;`, and blank lines are nothing;
* `{ list }` is a group, `( list )` a subshell, `if list then list [else list] fi` a
  condition, and `name ( ) { list }` defines a function.

The grammar is read by a machine, `Grammar.step`, that takes one token at a time and
keeps a stack of the constructs still open, `Frame`: the script itself at the bottom,
and above it each group, subshell or part of an `if` that has been opened and not
closed.  Like the reading of characters (`Posix.run`), the reading of tokens is one
pass from left to right (`Grammar.run_append`), so a script is read part by part.

The machine is stricter than the shell: it has no redirections, pipes, assignments
before a command, `case`, loops or background commands, and returns `none` on them.
Because quote removal has already happened (`Piece` keeps no quotes), a reserved word
is recognised by its letters, so a quoted `'if'` at the start of a command would be
read as the reserved word; in a build script every command name is fixed text.
-/

set_option autoImplicit false

namespace BuildWorker.Posix

/-! ## Commands -/

/-- How two commands of an and-or list are joined. -/
inductive Connector where
  /-- `&&`: the right command runs when the left one succeeded. -/
  | and
  /-- `||`: the right command runs when the left one failed. -/
  | or
  deriving DecidableEq, Repr

/-- A command of the shell language, as far as build scripts use it. -/
inductive Command where
  /-- A simple command: its words, not yet expanded. -/
  | simple (words : List (List Piece))
  /-- `! c`. -/
  | bang (command : Command)
  /-- `a && b` or `a || b`. -/
  | join (left : Command) (connector : Connector) (right : Command)
  /-- `{ list }`. -/
  | group (body : List Command)
  /-- `( list )`. -/
  | subshell (body : List Command)
  /-- `if list then list [else list] fi`. -/
  | ifThen (condition thenPart : List Command) (elsePart : Option (List Command))
  /-- `name ( ) body`. -/
  | function (name : String) (body : Command)
  deriving Repr

/-- What stands before the command being read in an and-or list: the commands already
joined, with the connector after them, and whether a `!` was read. -/
structure Pending where
  left : Option (Command × Connector) := none
  bang : Bool := false
  deriving Repr

/-- Nothing stands before the command being read. -/
def Pending.isEmpty (p : Pending) : Bool := p.left.isNone && !p.bang

/-- The command being read, joined to what stands before it. -/
def Pending.close (p : Pending) (c : Command) : Command :=
  let c := if p.bang then .bang c else c
  match p.left with
  | none => c
  | some (l, k) => .join l k c

/-- The pending part after the command being read and a connector. -/
def Pending.joinWith (p : Pending) (c : Command) (k : Connector) : Pending :=
  { left := some (p.close c, k) }

/-! ## The reading machine -/

/-- Where reading stands inside the list element being read. -/
inductive Element where
  /-- Where a command may start. -/
  | start (p : Pending)
  /-- Inside a simple command, after its words so far. -/
  | words (p : Pending) (words : List (List Piece))
  /-- After `name (`. -/
  | openParen (p : Pending) (name : String)
  /-- After `name ( )`, where the function's body starts. -/
  | body (p : Pending) (name : String)
  /-- A compound command is open above, and is the body of the named function if any. -/
  | inner (p : Pending) (name : Option String)
  /-- After a compound command. -/
  | complete (p : Pending) (c : Command)
  deriving Repr

/-- The construct a list being read belongs to, which says how the list ends. -/
inductive Construct where
  /-- The script: ends with the text. -/
  | script
  /-- A group: ends at `}`. -/
  | group
  /-- A subshell: ends at `)`. -/
  | subshell
  /-- The condition of an `if`: ends at `then`. -/
  | condition
  /-- The `then` part: ends at `else` or `fi`. -/
  | thenPart (condition : List Command)
  /-- The `else` part: ends at `fi`. -/
  | elsePart (condition thenPart : List Command)
  deriving Repr

/-- An open construct: the commands of its list read so far, the latest first, and where
reading stands in the next one. -/
structure Frame where
  construct : Construct
  done : List Command
  element : Element
  deriving Repr

/-- Whether a word is exactly the given text, as a reserved word must be. -/
def isWord (w : List Piece) (s : String) : Bool := w == literals s.toList

/-- Whether a text is a name (XCU 3.235). -/
def isName : List Char → Bool
  | c :: cs => isNameStart c && cs.all isNameChar
  | [] => false

/-- The characters of a word with nothing to expand. -/
def literalChars (w : List Piece) : Option (List Char) :=
  w.mapM fun | .literal c => some c | .expansion _ _ => none

/-- The name a word spells, if it is a name. -/
def nameOf (w : List Piece) : Option String :=
  match literalChars w with
  | some cs => if isName cs then some (String.ofList cs) else none
  | none => none

namespace Grammar

/-- A frame that starts a list. -/
def openFrame (k : Construct) : Frame := ⟨k, [], .start {}⟩

/-- The compound command that a token opens where a command starts. -/
def opens : Token → Option Construct
  | .word w => if isWord w "\x7b" then some .group else if isWord w "if" then some .condition else none
  | .operator ['('] => some .subshell
  | _ => none

/-- A construct is closed with the command it makes: the frame below, which waits for
it, has it as its complete command. -/
def reduce (c : Command) : List Frame → Option (List Frame)
  | ⟨k, done, .inner p name⟩ :: fs =>
      some (⟨k, done, .complete p (match name with | some n => .function n c | none => c)⟩ :: fs)
  | _ => none

/-- A word where a command starts, with nothing pending, in a list of the given
construct: the reserved words that end or continue the construct. -/
def closeWord (k : Construct) (done : List Command) (w : List Piece) (fs : List Frame) :
    Option (List Frame) :=
  match k with
  | .group => if isWord w "\x7d" then reduce (.group done.reverse) fs else none
  | .condition => if isWord w "then" then some (openFrame (.thenPart done.reverse) :: fs) else none
  | .thenPart cond =>
      if isWord w "else" then some (openFrame (.elsePart cond done.reverse) :: fs)
      else if isWord w "fi" then reduce (.ifThen cond done.reverse none) fs
      else none
  | .elsePart cond thenPart =>
      if isWord w "fi" then reduce (.ifThen cond thenPart (some done.reverse)) fs else none
  | _ => none

/-- Whether a word is one of the reserved words that end a list. -/
def isCloser (w : List Piece) : Bool :=
  isWord w "\x7d" || isWord w "then" || isWord w "else" || isWord w "fi"

/-- Whether a word, where a command starts, is the name of a simple command: no
reserved word. -/
def isPlain (w : List Piece) : Bool :=
  !(isWord w "!" || isCloser w || (opens (.word w)).isSome)

/-- A command of the list ends: it joins the commands read. -/
def endCommand (f : Frame) (c : Command) : Frame :=
  ⟨f.construct, c :: f.done, .start {}⟩

/-- After a whole command of a frame's list, the token that follows it: a separator, a
connector, or the `)` that closes a subshell. -/
def afterCommand (f : Frame) (fs : List Frame) (p : Pending) (c : Command) :
    Token → Option (List Frame)
  | .newline | .operator [';'] => some (endCommand f (p.close c) :: fs)
  | .operator ['&', '&'] => some (⟨f.construct, f.done, .start (p.joinWith c .and)⟩ :: fs)
  | .operator ['|', '|'] => some (⟨f.construct, f.done, .start (p.joinWith c .or)⟩ :: fs)
  | .operator [')'] =>
      match f.construct with
      | .subshell => reduce (.subshell (p.close c :: f.done).reverse) fs
      | _ => none
  | _ => none

/-- One token, read with the stack of open constructs. -/
def step : List Frame → Token → Option (List Frame)
  | [], _ => none
  | f :: fs, t =>
      match f.element, t with
      | .start p, .newline => if p.bang then none else some (f :: fs)
      | .start p, .word w =>
          if isWord w "!" then
            if p.bang then none else some (⟨f.construct, f.done, .start { p with bang := true }⟩ :: fs)
          else if isCloser w then
            if p.isEmpty then closeWord f.construct f.done w fs else none
          else match opens t with
            | some k => some (openFrame k :: ⟨f.construct, f.done, .inner p none⟩ :: fs)
            | none => some (⟨f.construct, f.done, .words p [w]⟩ :: fs)
      | .start p, .operator [')'] =>
          match f.construct with
          | .subshell => if p.isEmpty && !f.done.isEmpty then reduce (.subshell f.done.reverse) fs else none
          | _ => none
      | .start p, t =>
          match opens t with
          | some k => some (openFrame k :: ⟨f.construct, f.done, .inner p none⟩ :: fs)
          | none => none
      | .words p ws, .word w => some (⟨f.construct, f.done, .words p (ws ++ [w])⟩ :: fs)
      | .words p ws, .operator ['('] =>
          match ws with
          | [w] => (nameOf w).map fun n => ⟨f.construct, f.done, .openParen p n⟩ :: fs
          | _ => none
      | .words p ws, t => afterCommand f fs p (.simple ws) t
      | .openParen p n, .operator [')'] => some (⟨f.construct, f.done, .body p n⟩ :: fs)
      | .openParen _ _, _ => none
      | .body _ _, .newline => some (f :: fs)
      | .body p n, t =>
          match opens t with
          | some k => some (openFrame k :: ⟨f.construct, f.done, .inner p (some n)⟩ :: fs)
          | none => none
      | .inner _ _, _ => none
      | .complete p c, t => afterCommand f fs p c t

/-- Reads tokens with the stack of open constructs: the stack after them, or none at a
syntax error. -/
def run : List Frame → List Token → Option (List Frame)
  | fs, [] => some fs
  | fs, t :: ts => (step fs t).bind (run · ts)

/-- The end of the text: the script must be the only construct open, and the command
being read, if any, is its last. -/
def finish : List Frame → Option (List Command)
  | [⟨.script, done, .start p⟩] => if p.isEmpty then some done.reverse else none
  | [⟨.script, done, .words p ws⟩] => some (p.close (.simple ws) :: done).reverse
  | [⟨.script, done, .complete p c⟩] => some (p.close c :: done).reverse
  | _ => none

/-- The frame of a script, where reading starts. -/
def scriptFrame : Frame := openFrame .script

end Grammar

/-- The commands of a script's tokens, or none at a syntax error. -/
def parse (ts : List Token) : Option (List Command) :=
  (Grammar.run [Grammar.scriptFrame] ts).bind Grammar.finish

namespace Grammar

/-! ## Reading is one pass from left to right -/

theorem run_cons (fs : List Frame) (t : Token) (ts : List Token) :
    run fs (t :: ts) = (step fs t).bind (run · ts) := rfl

/-- Reading two lists of tokens one after the other is reading the first, then the
second from where the first left off. -/
theorem run_append (fs : List Frame) (xs ys : List Token) :
    run fs (xs ++ ys) = (run fs xs).bind (run · ys) := by
  induction xs generalizing fs with
  | nil => rfl
  | cons t ts ih =>
      simp only [List.cons_append, run_cons]
      cases step fs t with
      | none => rfl
      | some fs' => exact ih fs'

theorem run_append_of {fs fs₁ fs₂ : List Frame} {xs ys : List Token}
    (first : run fs xs = some fs₁) (second : run fs₁ ys = some fs₂) :
    run fs (xs ++ ys) = some fs₂ := by
  rw [run_append, first]
  exact second

theorem run_cons_of {fs fs₁ fs₂ : List Frame} {t : Token} {ts : List Token}
    (first : step fs t = some fs₁) (second : run fs₁ ts = some fs₂) :
    run fs (t :: ts) = some fs₂ := by
  rw [run_cons, first]
  exact second

/-! ## Steps -/

/-- Where a command may start, a word that is no reserved word starts a simple
command. -/
theorem step_start_plain {k : Construct} {ds : List Command} {fs : List Frame} {p : Pending}
    {w : List Piece} (h : isPlain w = true) :
    step (⟨k, ds, .start p⟩ :: fs) (.word w) = some (⟨k, ds, .words p [w]⟩ :: fs) := by
  simp only [isPlain, Bool.not_or, Bool.and_eq_true, Bool.not_eq_true', Option.isSome_eq_false_iff,
    Option.isNone_iff_eq_none] at h
  obtain ⟨⟨hbang, hcloser⟩, hopens⟩ := h
  simp [step, hbang, hcloser, hopens]

/-- A word that starts with a character no reserved word starts with is no reserved
word. -/
theorem isPlain_literal_cons {c : Char} (rest : List Piece)
    (hc : c ∉ ['!', '\x7d', 't', 'e', 'f', '\x7b', 'i']) : isPlain (.literal c :: rest) = true := by
  simp only [List.mem_cons, List.not_mem_nil, or_false, not_or] at hc
  obtain ⟨h1, h2, h3, h4, h5, h6, h7⟩ := hc
  simp [isPlain, isCloser, opens, isWord, literals, h1, h2, h3, h4, h5, h6, h7]

theorem literalChars_literals (cs : List Char) : literalChars (literals cs) = some cs := by
  induction cs with
  | nil => rfl
  | cons c cs ih =>
      simp only [literalChars] at ih
      simp [literalChars, literals_cons, List.mapM_cons, ih]

theorem nameOf_literals {cs : List Char} (h : isName cs = true) :
    nameOf (literals cs) = some (String.ofList cs) := by
  simp [nameOf, literalChars_literals, h]

end Grammar

end BuildWorker.Posix
