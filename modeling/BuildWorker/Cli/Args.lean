import BuildWorker.Strategy
/-!
# The command line

The worker's command line is `buildq [OPTIONS] [COMMAND]`, with four commands:
`register`, `deregister`, `list` and `run`.  Each command has its own options and
positional arguments; `-v`/`--verbose` is accepted by all of them, `-h`/`--help` prints
the help of the command it follows, and `-V`/`--version` the version of the program.

An option is written `--name`, `--name value`, `--name=value` or, when it has a short
form, `-n`; short flags may be grouped (`-vh`).  After `--` every word is positional.
A flag given twice, an option without its value, a word nobody expects and a missing
positional argument are usage errors, reported with the command's usage line and status 2.

Parsing is a pure function from the words to an `Invocation`, or to the text that ends the
program (help, version or a usage error) with its stream and status.
-/

set_option autoImplicit false

namespace BuildWorker.Cli

/-! ## The grammar -/

/-- An option: its long name, its letter, the name of its value when it takes one, its
help, and its default as shown in the help. -/
structure OptionSpec where
  long : String
  short : Option Char := none
  valueName : Option String := none
  help : String
  shownDefault : Option String := none
  deriving Repr

/-- A positional argument: the name of its value and its help. -/
structure PositionalSpec where
  valueName : String
  help : String
  deriving Repr

/-- A command: its name, what it does, its positional arguments (all required) and its
options. -/
structure CommandSpec where
  name : String
  about : String
  positionals : List PositionalSpec := []
  options : List OptionSpec := []
  deriving Repr

/-- The name of the program. -/
def programName : String := "buildq"

/-- The version of the program. -/
def programVersion : String := "0.1.0"

/-- The option every command accepts. -/
def verboseOption : OptionSpec :=
  { long := "verbose", short := some 'v', help := "Enable debug logging" }

/-- The help option. -/
def helpOption : OptionSpec := { long := "help", short := some 'h', help := "Print help" }

/-- The version option, of the program only. -/
def versionOption : OptionSpec := { long := "version", short := some 'V', help := "Print version" }

/-- `register`. -/
def registerSpec : CommandSpec where
  name := "register"
  about := "Register a new worker on a build queue"
  positionals := [⟨"QUEUE", "Queue to serve, as username/queue"⟩]
  options :=
    [{ long := "platform", valueName := some "PLATFORM",
       help := "Override the detected platform (e.g. linux-64)" },
     { long := "hostname", valueName := some "HOSTNAME", help := "Override the detected hostname" },
     { long := "dist", valueName := some "DIST", help := "Override the detected distribution" }]

/-- `deregister`. -/
def deregisterSpec : CommandSpec where
  name := "deregister"
  about := "Remove a worker from the server and delete its local identity"
  positionals := [⟨"WORKER_ID", "Worker id printed by " ++ "\x60register\x60"⟩]

/-- `list`. -/
def listSpec : CommandSpec where
  name := "list"
  about := "List workers registered from this host"

/-- `run`. -/
def runSpec : CommandSpec where
  name := "run"
  about := "Run the job loop for a registered worker"
  positionals := [⟨"WORKER_ID", "Worker id printed by " ++ "\x60register\x60"⟩]
  options :=
    [{ long := "push-back", help := "Return every claimed job to the queue without building it" },
     { long := "one", help := "Exit after one job" },
     { long := "show-traceback", help := "Show the raw server error if the worker has been removed" },
     { long := "clean", help := "Deregister a stale worker left behind by a crash, then exit" },
     { long := "no-fetch", help := "Do not download or clone any build source" },
     { long := "timeout", valueName := some "TIMEOUT", help := "Maximum build time (e.g. 90m, 2h)" },
     { long := "strategy", valueName := some "STRATEGY",
       help := "Where builds run: direct, docker or su", shownDefault := some "direct" },
     { long := "image", valueName := some "IMAGE", help := "Docker image for the docker strategy" },
     { long := "allow-user-images", help := "Let jobs choose their own docker image" },
     { long := "build-user", valueName := some "BUILD_USER", help := "Build user for the su strategy" }]

/-- The commands, in the order the help lists them. -/
def commandSpecs : List CommandSpec := [registerSpec, deregisterSpec, listSpec, runSpec]

/-- What the program does. -/
def programAbout : String := "buildq - build worker for a remote build queue"

/-! ## Help -/

/-- The left column of an option in the help. -/
def OptionSpec.label (o : OptionSpec) : String :=
  (match o.short with
   | some c => "-" ++ c.toString ++ ", "
   | none => "    ") ++ "--" ++ o.long ++
  (match o.valueName with
   | some v => " <" ++ v ++ ">"
   | none => "")

/-- An option as errors name it: its long form and its value. -/
def OptionSpec.display (o : OptionSpec) : String :=
  "--" ++ o.long ++ (match o.valueName with
    | some v => " <" ++ v ++ ">"
    | none => "")

/-- The right column of an option in the help. -/
def OptionSpec.helpText (o : OptionSpec) : String :=
  o.help ++ (match o.shownDefault with
    | some d => " [default: " ++ d ++ "]"
    | none => "")

/-- Lines of two columns, the second aligned two spaces after the longest first one. -/
def columns (rows : List (String × String)) : String :=
  let width := rows.foldl (fun w (l, _) => max w l.length) 0
  String.join (rows.map fun (l, r) =>
    "  " ++ l ++ String.ofList (List.replicate (width - l.length + 2) ' ') ++ r ++ "\n")

/-- The usage line of a command. -/
def CommandSpec.usage (c : CommandSpec) : String :=
  programName ++ " " ++ c.name ++ " [OPTIONS]" ++
    String.join (c.positionals.map fun p => " <" ++ p.valueName ++ ">")

/-- The usage line of the program. -/
def programUsage : String := programName ++ " [OPTIONS] [COMMAND]"

/-- The options a command's help lists: its own, then the common ones. -/
def CommandSpec.allOptions (c : CommandSpec) : List OptionSpec :=
  c.options ++ [verboseOption, helpOption]

/-- The help of a command. -/
def CommandSpec.help (c : CommandSpec) : String :=
  c.about ++ "\n\nUsage: " ++ c.usage ++ "\n\n" ++
  (if c.positionals.isEmpty then ""
   else "Arguments:\n" ++ columns (c.positionals.map fun p => ("<" ++ p.valueName ++ ">", p.help)) ++ "\n") ++
  "Options:\n" ++ columns (c.allOptions.map fun o => (o.label, o.helpText))

/-- The help of the program. -/
def programHelp : String :=
  programAbout ++ "\n\nUsage: " ++ programUsage ++ "\n\nCommands:\n" ++
  columns (commandSpecs.map (fun c => (c.name, c.about)) ++
    [("help", "Print this message or the help of the given subcommand(s)")]) ++
  "\nOptions:\n" ++ columns ([verboseOption, helpOption, versionOption].map fun o => (o.label, o.helpText))

/-! ## Parsing -/

/-- How parsing stops the program: the text, whether it goes to standard error, and the
status. -/
structure CliStop where
  text : String
  toError : Bool
  status : Nat
  deriving DecidableEq, Repr

/-- A usage error. -/
def usageError (message usage : String) : CliStop :=
  { text := "error: " ++ message ++ "\n\nUsage: " ++ usage ++ "\n\nFor more information, try '--help'.\n",
    toError := true, status := 2 }

/-- An error about a value, which shows no usage line. -/
def valueError (message : String) : CliStop :=
  { text := "error: " ++ message ++ "\n\nFor more information, try '--help'.\n", toError := true, status := 2 }

/-- The words of one command, sorted out: flags seen, option values, positionals. -/
structure Sorted where
  flags : List String := []
  values : List (String × String) := []
  positionals : List String := []
  verbose : Bool := false
  deriving Repr

/-- Whether a sorted command has a flag. -/
def Sorted.has (s : Sorted) (long : String) : Bool := s.flags.contains long

/-- The value of an option. -/
def Sorted.value? (s : Sorted) (long : String) : Option String := s.values.lookup long

/-- What one step of sorting gives: go on, or stop the program. -/
abbrev SortStep := Except CliStop Sorted

/-- Records an option, refusing a second one. -/
def Sorted.record (s : Sorted) (o : OptionSpec) (value : Option String) (usage : String) : SortStep :=
  if o.long == "verbose" then .ok { s with verbose := true }
  else if s.flags.contains o.long || (s.values.lookup o.long).isSome then
    .error (usageError ("the argument '" ++ o.display ++ "' cannot be used multiple times") usage)
  else match value with
    | some v => .ok { s with values := s.values ++ [(o.long, v)] }
    | none => .ok { s with flags := s.flags ++ [o.long] }

/-- Records a group of short flags such as `-vh`. -/
def readShorts (known : List OptionSpec) (help usage : String) : List Char → Sorted → SortStep
  | [], s => .ok s
  | c :: more, s =>
      if c == 'h' then .error { text := help, toError := false, status := 0 }
      else match known.find? (·.short == some c) with
      | some o => do readShorts known help usage more (← s.record o none usage)
      | none =>
          .error (usageError ("unexpected argument '-" ++ c.toString ++ "' found\n\n  tip: to pass '-" ++
            c.toString ++ "' as a value, use '-- -" ++ c.toString ++ "'") usage)

/-- Sorts the words of a command with the given options; `help` is the text `-h` prints. -/
def sortWords (options : List OptionSpec) (help usage : String) :
    Nat → Sorted → List String → SortStep
  | 0, s, _ => .ok s
  | _ + 1, s, [] => .ok s
  | fuel + 1, s, w :: rest =>
      let known := options ++ [verboseOption]
      if w == "--" then .ok { s with positionals := s.positionals ++ rest }
      else if w.startsWith "--" then
        let body := String.ofList (w.toList.drop 2)
        let (name, inline) := match body.splitOn "=" with
          | [n] => (n, none)
          | n :: more => (n, some ("=".intercalate more))
          | [] => (body, none)
        if name == "help" then .error { text := help, toError := false, status := 0 }
        else match known.find? (·.long == name) with
        | none =>
            .error (usageError ("unexpected argument '" ++ w ++ "' found\n\n  tip: to pass '" ++ w ++
              "' as a value, use '-- " ++ w ++ "'") usage)
        | some o =>
            match o.valueName, inline with
            | none, some v =>
                .error (valueError ("unexpected value '" ++ v ++ "' for '--" ++ o.long ++
                  "' found; no more were expected"))
            | none, none => do sortWords options help usage fuel (← s.record o none usage) rest
            | some _, some v => do sortWords options help usage fuel (← s.record o (some v) usage) rest
            | some _, none =>
                match rest with
                | v :: more => do sortWords options help usage fuel (← s.record o (some v) usage) more
                | [] => .error (valueError ("a value is required for '" ++ o.display ++
                    "' but none was supplied"))
      else if w.startsWith "-" && w.length > 1 then do
        let s ← readShorts known help usage (w.toList.drop 1) s
        sortWords options help usage fuel s rest
      else sortWords options help usage fuel { s with positionals := s.positionals ++ [w] } rest

/-- What `run` is asked to do. -/
structure RunRequest where
  workerId : String
  pushBack : Bool := false
  once : Bool := false
  showTraceback : Bool := false
  clean : Bool := false
  noFetch : Bool := false
  /-- The build time limit, in milliseconds. -/
  timeoutMs : Option Nat := none
  strategy : StrategyKind := .direct
  image : Option String := none
  allowUserImages : Bool := false
  buildUser : Option String := none
  deriving Repr

/-- A command of the program. -/
inductive CliCommand where
  | register (queue : String) (platform hostname dist : Option String)
  | deregister (workerId : String)
  | list
  | run (request : RunRequest)
  deriving Repr

/-- The program's command line, read. -/
structure Invocation where
  verbose : Bool := false
  command : Option CliCommand := none
  deriving Repr

/-! ## Durations -/

/-- The time units of a duration, each with its length in milliseconds. -/
def durationUnits : List (String × Nat) :=
  [("nsec", 0), ("ns", 0), ("usec", 0), ("us", 0), ("msec", 1), ("ms", 1),
   ("seconds", 1000), ("second", 1000), ("sec", 1000), ("s", 1000),
   ("minutes", 60000), ("minute", 60000), ("min", 60000), ("mins", 60000), ("m", 60000),
   ("hours", 3600000), ("hour", 3600000), ("hr", 3600000), ("hrs", 3600000), ("h", 3600000),
   ("days", 86400000), ("day", 86400000), ("d", 86400000),
   ("weeks", 604800000), ("week", 604800000), ("w", 604800000),
   ("months", 2630016000), ("month", 2630016000), ("M", 2630016000),
   ("years", 31557600000), ("year", 31557600000), ("y", 31557600000)]

/-- Reads a duration such as `90m`, `2h 30min` or `1h30m`, in milliseconds. -/
def readDuration (text : String) : Except String Nat :=
  let rec go : Nat → List Char → Nat → Nat → Except String Nat
    | 0, _, _, total => .ok total
    | _ + 1, [], _, total => .ok total
    | fuel + 1, cs, pos, total =>
        let blanks := cs.takeWhile (· == ' ')
        let cs := cs.drop blanks.length
        let pos := pos + blanks.length
        if cs.isEmpty then .ok total
        else
          let digits := cs.takeWhile Char.isDigit
          if digits.isEmpty then .error ("expected number at " ++ toString pos)
          else
            let cs := cs.drop digits.length
            let unit := cs.takeWhile Char.isAlpha
            let n := (String.ofList digits).toNat?.getD 0
            if unit.isEmpty then .error "time unit needed, for example 1sec or 1ms"
            else match durationUnits.lookup (String.ofList unit) with
              | some ms => go fuel (cs.drop unit.length) (pos + digits.length + unit.length) (total + n * ms)
              | none => .error ("unknown time unit \"" ++ String.ofList unit ++ "\", supported units: ns, us, ms, sec, min, hours, days, weeks, months, years (and few variations)")
  if text.isEmpty then .error "value was empty" else go (text.length + 1) text.toList 0 0

/-! ## Commands -/

/-- Reads the words after a command's name. -/
def readCommand (spec : CommandSpec) (words : List String) (verbose : Bool) :
    Except CliStop Invocation := do
  let usage := spec.usage
  let sorted ← sortWords spec.options spec.help usage (words.length + 1) { verbose } words
  let missing := spec.positionals.drop sorted.positionals.length
  if !missing.isEmpty then
    throw (usageError ("the following required arguments were not provided:\n" ++
      "\n".intercalate (missing.map fun p => "  <" ++ p.valueName ++ ">"))
      (programName ++ " " ++ spec.name ++ String.join (spec.positionals.map fun p => " <" ++ p.valueName ++ ">")))
  match sorted.positionals.drop spec.positionals.length with
  | extra :: _ => throw (usageError ("unexpected argument '" ++ extra ++ "' found") usage)
  | [] => pure ()
  let arg (k : Nat) := (sorted.positionals[k]?).getD ""
  let command ← match spec.name with
    | "register" =>
        pure (CliCommand.register (arg 0) (sorted.value? "platform") (sorted.value? "hostname")
          (sorted.value? "dist"))
    | "deregister" => pure (CliCommand.deregister (arg 0))
    | "list" => pure CliCommand.list
    | _ =>
        let timeoutMs ← match sorted.value? "timeout" with
          | some t => match readDuration t with
            | .ok ms => pure (some ms)
            | .error e => throw (valueError ("invalid value '" ++ t ++ "' for '--timeout <TIMEOUT>': " ++ e))
          | none => pure none
        let strategy ← match sorted.value? "strategy" with
          | some t => match StrategyKind.parse t with
            | .ok k => pure k
            | .error e => throw (valueError ("invalid value '" ++ t ++ "' for '--strategy <STRATEGY>': " ++ e.message))
          | none => pure .direct
        pure (CliCommand.run
          { workerId := arg 0, pushBack := sorted.has "push-back", once := sorted.has "one",
            showTraceback := sorted.has "show-traceback", clean := sorted.has "clean",
            noFetch := sorted.has "no-fetch", timeoutMs, strategy, image := sorted.value? "image",
            allowUserImages := sorted.has "allow-user-images", buildUser := sorted.value? "build-user" })
  pure { verbose := sorted.verbose, command := some command }

/-- Reads the program's command line (the words after the program's name). -/
def readCommandLine (words : List String) : Except CliStop Invocation :=
  let rec top : Nat → Bool → List String → Except CliStop Invocation
    | 0, verbose, _ => .ok { verbose }
    | _ + 1, verbose, [] => .ok { verbose }
    | fuel + 1, verbose, w :: rest =>
        if w == "-h" || w == "--help" then .error { text := programHelp, toError := false, status := 0 }
        else if w == "-V" || w == "--version" then
          .error { text := programName ++ " " ++ programVersion ++ "\n", toError := false, status := 0 }
        else if w == "-v" || w == "--verbose" then top fuel true rest
        else if w == "help" then
          match rest with
          | [] => .error { text := programHelp, toError := false, status := 0 }
          | name :: _ =>
              match commandSpecs.find? (·.name == name) with
              | some spec => .error { text := spec.help, toError := false, status := 0 }
              | none => .error (usageError ("unrecognized subcommand '" ++ name ++ "'") programUsage)
        else if w.startsWith "-" && w != "-" then
          .error (usageError ("unexpected argument '" ++ w ++ "' found") programUsage)
        else
          match commandSpecs.find? (·.name == w) with
          | some spec => readCommand spec rest verbose
          | none => .error (usageError ("unrecognized subcommand '" ++ w ++ "'") programUsage)
  top (words.length + 1) false words

end BuildWorker.Cli
