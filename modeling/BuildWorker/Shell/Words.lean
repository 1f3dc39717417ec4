import BuildWorker.Text.Blank

/-!
# Shell-like words

A job's environment is one line of `NAME=value` words, grouped the way a shell groups
them.  Outside quotes a Unicode blank ends a word and a backslash takes the next
character as it is (a backslash at the very end is dropped).  Single quotes keep
everything up to the next single quote.  Inside double quotes a backslash escapes
only a double quote, a backslash, a dollar sign and a backtick, and stays before any
other character.  A quote left open still ends the last word.

A word becomes a variable when it has an `=` and the text before the first one is a
valid name: a letter or underscore, then letters, digits and underscores (ASCII).
-/

namespace BuildWorker.Shell

open Text

/-- Where the scanner stands: outside quotes, inside single quotes, inside double
quotes. -/
inductive QuoteMode where
  | plain
  | single
  | double
  deriving DecidableEq, Repr

/-- Characters that a backslash escapes inside double quotes. -/
def isDoubleQuoteEscapable (c : Char) : Bool :=
  c == '"' || c == '\\' || c == '$' || c == '`'

/-- Scans the rest of the input.  `word` holds the open word's characters in reverse,
`inWord` whether a word is open (an empty quoted word is still a word), and the result
is the list of finished words. -/
def scanWords : QuoteMode → List Char → (word : List Char) → (inWord : Bool) → List (List Char)
  | .plain, [], word, inWord => if inWord then [word.reverse] else []
  | .single, [], word, _ => [word.reverse]
  | .double, [], word, _ => [word.reverse]
  | .plain, ['\\'], word, _ => [word.reverse]
  | .plain, '\\' :: d :: rest, word, _ => scanWords .plain rest (d :: word) true
  | .plain, c :: rest, word, inWord =>
      if isBlank c then
        if inWord then word.reverse :: scanWords .plain rest [] false
        else scanWords .plain rest [] false
      else if c == '\'' then scanWords .single rest word true
      else if c == '"' then scanWords .double rest word true
      else scanWords .plain rest (c :: word) true
  | .single, c :: rest, word, _ =>
      if c == '\'' then scanWords .plain rest word true
      else scanWords .single rest (c :: word) true
  | .double, '\\' :: d :: rest, word, _ =>
      if isDoubleQuoteEscapable d then scanWords .double rest (d :: word) true
      else scanWords .double (d :: rest) ('\\' :: word) true
  | .double, c :: rest, word, _ =>
      if c == '"' then scanWords .plain rest word true
      else scanWords .double rest (c :: word) true

/-- The words of a line. -/
def splitWords (cs : List Char) : List (List Char) :=
  scanWords .plain cs [] false

/-- A variable name: an ASCII letter or underscore, then ASCII letters, digits and
underscores. -/
def isVariableName : List Char → Bool
  | [] => false
  | c :: rest =>
      (c == '_' || c.isAlpha) && rest.all fun d => d == '_' || d.isAlphanum

/-- The variable a word defines, if it has an `=` after a valid name. -/
def assignment? (word : List Char) : Option (String × String) :=
  match word.span (· != '=') with
  | (name, '=' :: value) =>
      if isVariableName name then some (String.ofList name, String.ofList value) else none
  | _ => none

/-- The variables of an environment line, in order. -/
def envAssignments (line : String) : List (String × String) :=
  (splitWords line.toList).filterMap assignment?

end BuildWorker.Shell
