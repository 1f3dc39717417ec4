import BuildWorker.Shell.Machine
/-!
# The options of builtins

Most builtins read their options one way.  Words that start with `-` (and, for a few, with
`+`) and are more than the sign are options, up to the first word that is not one or up
to `--`, which is dropped.  Each letter of such a word is an option; a letter that takes
an argument takes the rest of its word, or else the next word.

A letter the builtin does not take, or an argument that is missing, refuses the whole
command: the builtin says which, shows its synopsis on the next line (without the shell's
name, as a usage note), and fails with status 2 without doing anything.
-/

namespace BuildWorker.Shell

/-- The synopsis of a builtin, as its usage note shows it. -/
def builtinSynopsis : String → String
  | "alias" => "alias [-p] [name[=value] ... ]"
  | "unalias" => "unalias [-a] name [name ...]"
  | "builtin" => "builtin [shell-builtin [arg ...]]"
  | "caller" => "caller [expr]"
  | "cd" => "cd [-L|[-P [-e]] [-@]] [dir]"
  | "pwd" => "pwd [-LP]"
  | "command" => "command [-pVv] command [arg ...]"
  | "declare" => "declare [-aAfFgiIlnrtux] [name[=value] ...] or declare -p [-aAfFilnrtux] [name ...]"
  | "typeset" => "typeset [-aAfFgiIlnrtux] name[=value] ... or typeset -p [-aAfFilnrtux] [name ...]"
  | "local" => "local [option] name[=value] ..."
  | "export" => "export [-fn] [name[=value] ...] or export -p"
  | "readonly" => "readonly [-aAf] [name[=value] ...] or readonly -p"
  | "unset" => "unset [-f] [-v] [-n] [name ...]"
  | "enable" => "enable [-a] [-dnps] [-f filename] [name ...]"
  | "eval" => "eval [arg ...]"
  | "getopts" => "getopts optstring name [arg ...]"
  | "exec" => "exec [-cl] [-a name] [command [argument ...]] [redirection ...]"
  | "fc" => "fc [-e ename] [-lnr] [first] [last] or fc -s [pat=rep] [command]"
  | "hash" => "hash [-lr] [-p pathname] [-dt] [name ...]"
  | "help" => "help [-dms] [pattern ...]"
  | "history" => "history [-c] [-d offset] [n] or history -anrw [filename] or history -ps arg [arg...]"
  | "jobs" => "jobs [-lnprs] [jobspec ...] or jobs -x command [args]"
  | "disown" => "disown [-h] [-ar] [jobspec ... | pid ...]"
  | "kill" => "kill [-s sigspec | -n signum | -sigspec] pid | jobspec ... or kill -l [sigspec]"
  | "read" => "read [-ers] [-a array] [-d delim] [-i text] [-n nchars] [-N nchars] [-p prompt] [-t timeout] [-u fd] [name ...]"
  | "set" => "set [-abefhkmnptuvxBCEHPT] [-o option-name] [--] [-] [arg ...]"
  | "source" => "source filename [arguments]"
  | "." => ". filename [arguments]"
  | "suspend" => "suspend [-f]"
  | "times" => "times"
  | "trap" => "trap [-lp] [[arg] signal_spec ...]"
  | "type" => "type [-afptP] name [name ...]"
  | "umask" => "umask [-p] [-S] [mode]"
  | "wait" => "wait [-fn] [-p var] [id ...]"
  | "printf" => "printf [-v var] format [arguments]"
  | "pushd" => "pushd [-n] [+N | -N | dir]"
  | "popd" => "popd [-n] [+N | -N]"
  | "dirs" => "dirs [-clpv] [+N] [-N]"
  | "shopt" => "shopt [-pqsu] [-o] [optname ...]"
  | "mapfile" => "mapfile [-d delim] [-n count] [-O origin] [-s count] [-t] [-u fd] [-C callback] [-c quantum] [array]"
  | "readarray" => "readarray [-d delim] [-n count] [-O origin] [-s count] [-t] [-u fd] [-C callback] [-c quantum] [array]"
  | "compgen" => "compgen [-abcdefgjksuv] [-o option] [-A action] [-G globpat] [-W wordlist] [-F function] [-C command] [-X filterpat] [-P prefix] [-S suffix] [word]"
  | name => name

/-- Writes a builtin's usage note to standard error. -/
def showSynopsis (name : String) : ShellM Unit :=
  writeErr (Text.encode (name ++ ": usage: " ++ builtinSynopsis name ++ "\n"))

/-- The options a builtin takes. -/
structure BuiltinSpec where
  /-- The letters that take no argument. -/
  flags : List Char := []
  /-- The letters that take an argument. -/
  withArgument : List Char := []
  /-- Whether options may also start with `+`. -/
  plus : Bool := false

/-- An option as given: its letter, whether it came after `+`, and its argument. -/
structure BuiltinOption where
  letter : Char
  plus : Bool := false
  argument : Option String := none
  deriving Repr, Inhabited

/-- Why a builtin refused its words, naming the option as written. -/
inductive BuiltinRefusal where
  | invalid (written : String)
  | missingArgument (written : String)
  deriving Repr, Inhabited

/-- The message of a refusal. -/
def BuiltinRefusal.message : BuiltinRefusal → String
  | .invalid w => w ++ ": invalid option"
  | .missingArgument w => w ++ ": option requires an argument"

/-- Reads the letters of one word of options after its sign; a letter that takes an
argument ends the word, and without a rest of the word takes the next word.  Gives the
options and the words after them. -/
def readBuiltinLetters (spec : BuiltinSpec) (sign : Char) :
    List Char → List String → Except BuiltinRefusal (List BuiltinOption × List String)
  | [], rest => .ok ([], rest)
  | c :: more, rest =>
      let given (argument : Option String) : BuiltinOption := { letter := c, plus := sign == '+', argument }
      if spec.withArgument.contains c then
        if !more.isEmpty then .ok ([given (some (String.ofList more))], rest)
        else
          match rest with
          | a :: after => .ok ([given (some a)], after)
          | [] => .error (.missingArgument (String.ofList [sign, c]))
      else if spec.flags.contains c then
        (readBuiltinLetters spec sign more rest).map fun (os, r) => (given none :: os, r)
      else .error (.invalid (String.ofList [sign, c]))

/-- Reads the words of options, at most `fuel` of them: gives the options and the words
after them. -/
def readBuiltinWords (spec : BuiltinSpec) : Nat → List String → Except BuiltinRefusal (List BuiltinOption × List String)
  | 0, words => .ok ([], words)
  | _ + 1, [] => .ok ([], [])
  | fuel + 1, w :: rest =>
      match w.toList with
      | ['-', '-'] => .ok ([], rest)
      | sign :: c :: more =>
          if sign == '-' || (sign == '+' && spec.plus) then
            match readBuiltinLetters spec sign (c :: more) rest with
            | .error e => .error e
            | .ok (os, after) => (readBuiltinWords spec fuel after).map fun (later, r) => (os ++ later, r)
          else .ok ([], w :: rest)
      | _ => .ok ([], w :: rest)

/-- Reads a builtin's options from its words. -/
def parseBuiltinOptions (spec : BuiltinSpec) (words : List String) : Except BuiltinRefusal (List BuiltinOption × List String) :=
  readBuiltinWords spec words.length words

/-- Reads a builtin's options, or refuses its words: says why, shows the synopsis, and
sets status 2. -/
def builtinOptions (name : String) (spec : BuiltinSpec) (args : List String) :
    ShellM (Option (List BuiltinOption × List String)) := do
  match parseBuiltinOptions spec args with
  | .ok r => pure (some r)
  | .error e =>
      complain (name ++ ": " ++ e.message)
      showSynopsis name
      setStatus 2
      pure none

/-- Whether a letter was given, after `-`. -/
def flagGiven (given : List BuiltinOption) (c : Char) : Bool :=
  given.any fun o => o.letter == c && !o.plus

/-- The argument last given with a letter. -/
def argumentGiven (given : List BuiltinOption) (c : Char) : Option String :=
  (given.filter (·.letter == c)).getLast?.bind (·.argument)

end BuildWorker.Shell
