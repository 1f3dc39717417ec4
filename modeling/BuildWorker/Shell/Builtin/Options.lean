import BuildWorker.Shell.Builtin.Declare
/-!
# Shell options and option parsing

`set` turns the options of the shell on and off (by letter, or by name after `-o`) and
replaces the positional parameters; `shopt` does the same for the shell's other
options; `getopts` reads options from the positional parameters, or from given words,
one per call.

`getopts` keeps its place in two parts: `OPTIND`, the index of the next word, and how
far into a word of bundled options it has read.  The second part counts only while
`OPTIND` is what `getopts` left it at; setting `OPTIND` starts over.
-/

namespace BuildWorker.Shell

open Text

/-! ## set -/

/-- The options of `set -o`, in the order they are listed. -/
def setOptionNames : List String :=
  ["allexport", "braceexpand", "emacs", "errexit", "errtrace", "functrace", "hashall",
    "histexpand", "history", "ignoreeof", "interactive-comments", "keyword", "monitor",
    "noclobber", "noexec", "noglob", "nolog", "notify", "nounset", "onecmd", "physical",
    "pipefail", "posix", "privileged", "verbose", "vi", "xtrace"]

/-- The option a letter of `set` stands for. -/
def optionOfLetter : Char → Option String
  | 'a' => some "allexport"
  | 'b' => some "notify"
  | 'e' => some "errexit"
  | 'f' => some "noglob"
  | 'h' => some "hashall"
  | 'k' => some "keyword"
  | 'm' => some "monitor"
  | 'n' => some "noexec"
  | 'p' => some "privileged"
  | 't' => some "onecmd"
  | 'u' => some "nounset"
  | 'v' => some "verbose"
  | 'x' => some "xtrace"
  | 'B' => some "braceexpand"
  | 'C' => some "noclobber"
  | 'E' => some "errtrace"
  | 'H' => some "histexpand"
  | 'P' => some "physical"
  | 'T' => some "functrace"
  | _ => none

/-- Whether an option of `set -o` is on. -/
def ShellState.optionOn (s : ShellState) (name : String) : Bool :=
  match name with
  | "errexit" => s.errexit
  | "nounset" => s.nounset
  | "xtrace" => s.xtrace
  | "pipefail" => s.pipefail
  | _ => s.option name

/-- Turns an option of `set -o` on or off. -/
def ShellState.withOption (s : ShellState) (name : String) (on : Bool) : ShellState :=
  match name with
  | "errexit" => { s with errexit := on }
  | "nounset" => { s with nounset := on }
  | "xtrace" => { s with xtrace := on }
  | "pipefail" => { s with pipefail := on }
  | _ =>
      let others := s.setOptions.filter (· != name)
      { s with setOptions := if on then others ++ [name] else others }

/-- The listing of `set -o`, or with `plus` the commands of `set +o`. -/
def optionListing (s : ShellState) (plus : Bool) : String :=
  String.join (setOptionNames.map fun n =>
    let on := s.optionOn n
    if plus then "set " ++ (if on then "-o " else "+o ") ++ n ++ "\n"
    else n ++ String.ofList (List.replicate (15 - min 15 n.length) ' ') ++ "\t" ++
      (if on then "on" else "off") ++ "\n")

/-- Applies the letters of one option word of `set`; `o` takes its name from the words
that follow.  Gives the words left, or nothing after an error. -/
def setLetters (on : Bool) : List Char → List String → ShellM (Option (List String))
  | [], rest => pure (some rest)
  | 'o' :: more, rest =>
      match rest with
      | name :: after => do
          if setOptionNames.contains name then
            modifyShell (·.withOption name on)
            setLetters on more after
          else
            failBuiltin "set" (name ++ ": invalid option name") 2
            pure none
      | [] => do
          printOut (optionListing (← getShell) !on)
          setLetters on more []
  | c :: more, rest => do
      match optionOfLetter c with
      | some name =>
          modifyShell (·.withOption name on)
          setLetters on more rest
      | none =>
          failBuiltin "set" ((if on then "-" else "+") ++ c.toString ++ ": invalid option") 2
          showSynopsis "set"
          pure none

/-- Reads the words of `set`: option words first, then the positional parameters. -/
def setWords : Nat → List String → ShellM Bool
  | 0, _ => pure true
  | fuel + 1, args =>
      match args with
      | [] => pure true
      | "--" :: rest => do
          modifyShell fun s => { s with positional := rest }
          pure true
      | "-" :: rest => do
          modifyShell fun s => (s.withOption "xtrace" false).withOption "verbose" false
          if !rest.isEmpty then modifyShell fun s => { s with positional := rest }
          pure true
      | a :: rest =>
          if (a.startsWith "-" || a.startsWith "+") && a.length > 1 then do
            match ← setLetters (a.startsWith "-") (a.toList.drop 1) rest with
            | some left => setWords fuel left
            | none => pure false
          else do
            modifyShell fun s => { s with positional := args }
            pure true

/-- `set`: turns options on (`-e`, `-o pipefail`) and off (`+e`), and with `--` or plain
words replaces the positional parameters; alone it lists the variables. -/
def setBuiltin (args : List String) : ShellM Unit := do
  if args.isEmpty then
    for (n, v) in (← getShell).sortedVars do
      if let some line := setListing n v then printOut (line ++ "\n")
    setStatus 0
    return
  if ← setWords (args.length + 1) args then setStatus 0

/-! ## shopt -/

/-- The options of `shopt` and whether each is on when a shell starts. -/
def shoptDefaults : List (String × Bool) :=
  [("assoc_expand_once", false), ("autocd", false), ("cdable_vars", false), ("cdspell", false),
    ("checkhash", false), ("checkjobs", false), ("checkwinsize", true), ("cmdhist", true),
    ("compat31", false), ("compat32", false), ("compat40", false), ("compat41", false),
    ("compat42", false), ("compat43", false), ("compat44", false), ("complete_fullquote", true),
    ("direxpand", false), ("dirspell", false), ("dotglob", false), ("execfail", false),
    ("expand_aliases", false), ("extdebug", false), ("extglob", false), ("extquote", true),
    ("failglob", false), ("force_fignore", true), ("globasciiranges", true),
    ("globskipdots", true), ("globstar", false), ("gnu_errfmt", false), ("histappend", false),
    ("histreedit", false), ("histverify", false), ("hostcomplete", true), ("huponexit", false),
    ("inherit_errexit", false), ("interactive_comments", true), ("lastpipe", false),
    ("lithist", false), ("localvar_inherit", false), ("localvar_unset", false),
    ("login_shell", false), ("mailwarn", false), ("no_empty_cmd_completion", false),
    ("nocaseglob", false), ("nocasematch", false), ("noexpand_translation", false),
    ("nullglob", false), ("patsub_replacement", true), ("progcomp", true),
    ("progcomp_alias", false), ("promptvars", true), ("restricted_shell", false),
    ("shift_verbose", false), ("sourcepath", true), ("varredir_close", false),
    ("xpg_echo", false)]

/-- The options of `shopt` that are on when a shell starts. -/
def defaultShopts : List String := (shoptDefaults.filter (·.2)).map (·.1)

/-- `shopt`: `-s` and `-u` turn options on and off, `-q` asks quietly, `-p` lists as
commands, `-o` works on the options of `set -o`; alone it lists the options.  Names are
taken in order, each unknown one reported where it stands; `-s` or `-u` without names
lists the options that are on or off. -/
def shoptBuiltin (args : List String) : ShellM Unit := do
  let some (given, names) ← builtinOptions "shopt" { flags := "psuoq".toList } args | return
  let letters := given.map (·.letter)
  let setting := letters.contains 's'
  let unsetting := letters.contains 'u'
  if setting && unsetting then
    failBuiltin "shopt" "cannot set and unset shell options simultaneously" 1
    return
  let setStyle := letters.contains 'o'
  let quiet := letters.contains 'q'
  let commands := letters.contains 'p'
  let known := if setStyle then setOptionNames else shoptDefaults.map (·.1)
  let isOn (s : ShellState) (n : String) : Bool := if setStyle then s.optionOn n else s.shopt n
  let unknown (n : String) : ShellM Unit :=
    failBuiltin "shopt" (n ++ ": invalid " ++ (if setStyle then "option name" else "shell option name")) 1
  let listOne (n : String) (on : Bool) : ShellM Unit :=
    if commands then
      printOut ((if setStyle then "set " else "shopt ") ++
        (if setStyle then (if on then "-o " else "+o ") else (if on then "-s " else "-u ")) ++ n ++ "\n")
    else
      printOut (n ++ String.ofList (List.replicate (15 - min 15 n.length) ' ') ++ "\t" ++
        (if on then "on" else "off") ++ "\n")
  let mut failed := false
  if (setting || unsetting) && !names.isEmpty then
    for n in names do
      if known.contains n then
        if setStyle then modifyShell (·.withOption n setting)
        else modifyShell fun s =>
          let others := s.shopts.filter (· != n)
          { s with shopts := if setting then others ++ [n] else others }
      else
        unknown n
        failed := true
  else if names.isEmpty then
    let s ← getShell
    for n in known do
      let on := isOn s n
      if !quiet && (!(setting || unsetting) || on == setting) then listOne n on
  else
    let s ← getShell
    for n in names do
      if known.contains n then
        let on := isOn s n
        if !on then failed := true
        if !quiet then listOne n on
      else
        unknown n
        failed := true
  setStatus (if failed then 1 else 0)

/-! ## getopts -/

/-- `getopts optstring name [words]`: reads the next option into `name`, its argument
into `OPTARG`, and moves `OPTIND`; false at the end of the options.  A leading `:` in
the option string makes errors quiet: the bad option goes to `OPTARG` instead of a
message. -/
def getoptsBuiltin (args : List String) : ShellM Unit := do
  let some (_, args) ← builtinOptions "getopts" {} args | return
  match args with
  | spec :: name :: given =>
      let s ← getShell
      let words := if given.isEmpty then s.positional else given
      let optind := ((lookupVar s "OPTIND").bind String.toNat?).getD 1
      let offset := if s.optionCursor.1 == optind then s.optionCursor.2 else 0
      let quiet := spec.startsWith ":"
      let specChars := spec.toList
      let finish (ind off : Nat) : ShellM Unit := do
        modifyShell fun s => { (s.setVar "OPTIND" (toString ind)) with optionCursor := (ind, off) }
      let assign (v : String) : ShellM Unit := do
        let _ ← setValue name none v false
      match words[optind - 1]? with
      | none =>
          assign "?"
          finish optind 0
          setStatus 1
      | some word =>
          let cs := word.toList
          if offset == 0 && (cs.head? != some '-' || cs.length < 2) then
            assign "?"
            finish optind 0
            setStatus 1
          else if offset == 0 && word == "--" then
            assign "?"
            finish (optind + 1) 0
            setStatus 1
          else
            let pos := if offset == 0 then 1 else offset
            let c := cs[pos]?.getD '?'
            let atEnd := pos + 1 ≥ cs.length
            let next (ind off : Nat) := if atEnd then (ind + 1, 0) else (ind, off + 1)
            let known := c != ':' && specChars.contains c
            let wantsArg := known && (specChars.drop ((specChars.idxOf? c).getD 0 + 1)).head? == some ':'
            if !known then
              if quiet then
                assign "?"
                modifyShell (·.setVar "OPTARG" c.toString)
              else
                writeErr (encode (s.scriptName ++ ": illegal option -- " ++ c.toString ++ "\n"))
                assign "?"
                modifyShell (·.unsetVar "OPTARG")
              let (i, o) := next optind pos
              finish i o
              setStatus 0
            else if wantsArg then
              if !atEnd then
                modifyShell (·.setVar "OPTARG" (String.ofList (cs.drop (pos + 1))))
                assign c.toString
                finish (optind + 1) 0
                setStatus 0
              else
                match words[optind]? with
                | some value =>
                    modifyShell (·.setVar "OPTARG" value)
                    assign c.toString
                    finish (optind + 2) 0
                    setStatus 0
                | none =>
                    if quiet then
                      assign ":"
                      modifyShell (·.setVar "OPTARG" c.toString)
                    else
                      writeErr (encode (s.scriptName ++ ": option requires an argument -- " ++ c.toString ++ "\n"))
                      assign "?"
                      modifyShell (·.unsetVar "OPTARG")
                    finish (optind + 1) 0
                    setStatus 0
            else
              assign c.toString
              modifyShell (·.unsetVar "OPTARG")
              let (i, o) := next optind pos
              finish i o
              setStatus 0
  | _ =>
      showSynopsis "getopts"
      setStatus 2

end BuildWorker.Shell
