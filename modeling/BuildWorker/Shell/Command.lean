/-!
# Shell commands

The commands a build script is made of, as a tree.  A *word* is a list of parts: plain
text, a parameter, a command substitution or an arithmetic expansion, each marked with
whether it stood inside double quotes.  Quoting decides two things later: whether the
result of an expansion is split into fields, and whether an empty word survives.

The text of a command substitution, of an arithmetic expansion, of an array subscript
and of the words inside `${name:-word}` and its kin is kept as written and read again
when it is expanded, which is how a shell treats them too: their meaning depends on the
state at the time they run.

Commands are the usual shell forms: simple commands with assignments and redirections,
pipelines, `&&` and `||` chains, sequences, background jobs, subshells, brace groups,
`if`, `for` over words or arithmetic, `select`, `while`/`until`, `case`, `[[ ... ]]`,
`(( ... ))`, coprocesses and function definitions.
-/

namespace BuildWorker.Shell

/-- Which match of a pattern `${name/pattern/text}` replaces. -/
inductive ReplaceAnchor where
  /-- `/`: the first, longest match. -/
  | first
  /-- `//`: every match, left to right. -/
  | all
  /-- `/#`: a match at the start. -/
  | start
  /-- `/%`: a match at the end. -/
  | finish
  deriving DecidableEq, Repr, Inhabited

/-- How `${name^pattern}` and its kin change the case of letters. -/
inductive CaseChange where
  | upper
  | lower
  | toggle
  deriving DecidableEq, Repr, Inhabited

/-- What a parameter expansion does with the parameter's value. -/
inductive ParamOp where
  /-- `$name` or `${name}`. -/
  | value
  /-- `${#name}`: the length in characters, or the number of elements. -/
  | length
  /-- `${name-word}`, or with `colon` `${name:-word}`: the word when unset (or empty). -/
  | ifUnset (colon : Bool) (word : String)
  /-- `${name=word}`: like `ifUnset`, and the variable is set to the word. -/
  | assignIfUnset (colon : Bool) (word : String)
  /-- `${name+word}`: the word when set (and, with `colon`, not empty). -/
  | ifSet (colon : Bool) (word : String)
  /-- `${name?word}`: an error when unset (or empty). -/
  | failIfUnset (colon : Bool) (word : String)
  /-- `${name#pattern}` (or `##` when `longest`): the value without a matching prefix. -/
  | dropPrefix (longest : Bool) (pattern : String)
  /-- `${name%pattern}` (or `%%` when `longest`): the value without a matching suffix. -/
  | dropSuffix (longest : Bool) (pattern : String)
  /-- `${name/pattern/text}` and its anchored and global forms. -/
  | replace (anchor : ReplaceAnchor) (pattern : String) (replacement : String)
  /-- `${name^pattern}`, `${name,,pattern}`, `${name~pattern}`: the case of the first
  letter, or of every letter when `every`, that matches the pattern (any letter when the
  pattern is empty). -/
  | changeCase (change : CaseChange) (every : Bool) (pattern : String)
  /-- `${name:offset}` and `${name:offset:length}`, both arithmetic. -/
  | slice (offset : String) (length : Option String)
  /-- `${name@Q}` and the other transformations, by what follows the `@`: one of the
letters `QEPAaUuLKk`, or else a bad substitution once the parameter is set. -/
  | transform (op : String)
  /-- `${!name[@]}`: the indices or keys of an array. -/
  | keys
  /-- `${!prefix*}` and `${!prefix@}`: the names of the variables with a prefix. -/
  | namesWithPrefix
  deriving DecidableEq, Repr, Inhabited

/-- The parameter an expansion reads: a name, an optional subscript kept as text (`@` and
`*` stand for every element), and whether it is `${!name}`, which reads the variable
named by the value. -/
structure ParamRef where
  name : String
  subscript : Option String := none
  indirect : Bool := false
  deriving DecidableEq, Repr, Inhabited

/-- Whether a reference stands for every element: `$@`, `$*`, `a[@]`, `a[*]`. -/
def ParamRef.isMulti (r : ParamRef) : Bool :=
  r.subscript == some "@" || r.subscript == some "*" ||
    (r.subscript.isNone && (r.name == "@" || r.name == "*"))

/-- Whether the elements of a multiple reference are joined into one text, as `$*` and
`a[*]` are inside double quotes. -/
def ParamRef.joinsStar (r : ParamRef) : Bool :=
  r.subscript == some "*" || (r.subscript.isNone && r.name == "*")

/-- One part of a word. -/
inductive WordPart where
  | text (s : String) (quoted : Bool)
  | param (ref : ParamRef) (op : ParamOp) (quoted : Bool)
  | command (source : String) (quoted : Bool)
  | arith (source : String) (quoted : Bool)
  /-- `<(list)` or `>(list)`: the name of a file that gives the list's output, or takes
  its input. -/
  | process (source : String) (output : Bool)
  /-- A `${...}` that names no expansion: an error when it is expanded. -/
  | invalid (text : String)
  deriving DecidableEq, Repr, Inhabited

/-- A word: its parts in order. -/
abbrev Word := List WordPart

/-- An element of an array assignment `( ... )`: an optional `[key]=` or `[key]+=`, and
the value. -/
structure ArrayItem where
  key : Option String := none
  append : Bool := false
  value : Word
  deriving DecidableEq, Repr, Inhabited

/-- The value of an assignment: a word, or a list of array elements. -/
inductive AssignValue where
  | scalar (w : Word)
  | list (items : List ArrayItem)
  deriving DecidableEq, Repr, Inhabited

/-- `name=value`, `name+=value`, `name[subscript]=value`, or `name=( ... )`. -/
structure Assignment where
  name : String
  subscript : Option String := none
  append : Bool := false
  value : AssignValue
  deriving DecidableEq, Repr, Inhabited

/-- A word of a simple command: a plain word, or an assignment given as an argument to a
builtin that declares variables (`declare`, `local`, `export`, `readonly`). -/
inductive Arg where
  | word (w : Word)
  | assign (a : Assignment) (text : String)
  deriving DecidableEq, Repr, Inhabited

/-- The descriptor a redirection changes: a number, or `{name}`, where the shell picks a
free descriptor and puts its number in the variable. -/
inductive FdSpec where
  | fixed (n : Nat)
  | named (name : String)
  deriving DecidableEq, Repr, Inhabited

/-- The word a redirection names, with its text as written: messages about a word that
expands to no single file name quote it, and the written text tells a descriptor number
from a word that expands to one. -/
structure Target where
  word : Word
  written : String
  deriving DecidableEq, Repr, Inhabited

/-- A redirection of one of a command's descriptors. -/
inductive Redirect where
  /-- `n> file`, `n>> file` when `append`, `n>| file` when `force`. -/
  | output (fd : FdSpec) (target : Target) (append : Bool) (force : Bool)
  /-- `n< file`. -/
  | input (fd : FdSpec) (target : Target)
  /-- `n<> file`: open for reading and writing. -/
  | readWrite (fd : FdSpec) (target : Target)
  /-- `n>&m` and `n<&m`: descriptor `fd` becomes a copy of the one named by the word;
  `-` closes it, and `m-` moves `m`. -/
  | duplicate (fd : FdSpec) (target : Target) (output : Bool)
  /-- `&> file` and `&>> file`: standard output and standard error both to the file. -/
  | outputBoth (target : Target) (append : Bool)
  /-- `n<<< word`, or a here-document read into a word: the word's text as input,
  with a line feed after it when `newline`. -/
  | hereText (fd : FdSpec) (body : Word) (newline : Bool)
  deriving DecidableEq, Repr, Inhabited

/-- An expression of `[[ ... ]]`. -/
inductive CondExpr where
  /-- A single word: true when it is not empty. -/
  | word (w : Word)
  /-- `-f file`, `-z text` and the other unary tests. -/
  | unary (op : String) (arg : Word)
  /-- `a == pattern`, `a =~ regex`, `a -lt b` and the other binary tests. -/
  | binary (op : String) (lhs rhs : Word)
  | not (e : CondExpr)
  | and (a b : CondExpr)
  | or (a b : CondExpr)
  deriving DecidableEq, Repr, Inhabited

/-- How an arm of `case` ends: `;;` stops, `;&` runs the next arm's body too, `;;&`
goes on testing the next patterns. -/
inductive CaseEnd where
  | stop
  | fallThrough
  | testNext
  deriving DecidableEq, Repr, Inhabited

/-- A command. -/
inductive Command where
  /-- Assignments, words and redirections; no words means only assignments.  The line is
  where the token after the first element ends, which messages about the command name. -/
  | simple (line : Nat) (assignments : List Assignment) (words : List Arg) (redirects : List Redirect)
  /-- Commands joined by pipes; `negated` for a leading `!`. -/
  | pipeline (negated : Bool) (stages : List Command)
  /-- `first && second`. -/
  | both (first second : Command)
  /-- `first || second`. -/
  | either (first second : Command)
  /-- Commands run one after the other. -/
  | sequence (items : List Command)
  /-- `body &`: started and not waited for. -/
  | background (body : Command)
  /-- `( body )`: run in a copy of the shell. -/
  | subshell (body : Command) (redirects : List Redirect)
  /-- `{ body; }`. -/
  | group (body : Command) (redirects : List Redirect)
  /-- `if c1; then b1; elif c2; then b2; else e; fi`. -/
  | conditional (branches : List (Command × Command)) (otherwise : Option Command)
      (redirects : List Redirect)
  /-- `for name in words; do body; done`; without `in` the positional parameters.  The
  line (here and below) is that of the first word. -/
  | forEach (line : Nat) (name : String) (items : Option (List Word)) (body : Command)
      (redirects : List Redirect)
  /-- `for (( init; test; step )); do body; done`. -/
  | forArith (line : Nat) (init test step : String) (body : Command) (redirects : List Redirect)
  /-- `select name in words; do body; done`: a menu read from standard input. -/
  | select (line : Nat) (name : String) (items : Option (List Word)) (body : Command)
      (redirects : List Redirect)
  /-- `while c; do body; done`, or `until` when `untilTrue`. -/
  | loop (untilTrue : Bool) (condition body : Command) (redirects : List Redirect)
  /-- `case word in pattern) body;; esac`. -/
  | caseOf (line : Nat) (subject : Word) (arms : List (List Word × Command × CaseEnd))
      (redirects : List Redirect)
  /-- `name() body`. -/
  | function (name : String) (body : Command)
  /-- `(( expression ))`: true when the expression is not zero.  The line (here and
  below) is where the command's closing token ends. -/
  | arithmetic (line : Nat) (source : String) (redirects : List Redirect)
  /-- `[[ expression ]]`. -/
  | test (line : Nat) (e : CondExpr) (redirects : List Redirect)
  /-- `coproc name body`: the body runs beside the shell, joined to it by two pipes. -/
  | coproc (name : String) (body : Command)
  deriving Repr, Inhabited

/-- The command that does nothing and succeeds. -/
def Command.empty : Command := .sequence []

end BuildWorker.Shell
