import BuildWorker.Files.Tree
import BuildWorker.Text.Utf8
/-!
# Calling a utility

A utility outside the shell sees its arguments, its standard input, the working
directory, the exported variables and the file tree; it leaves its standard output,
its standard error, its status and the file tree after it, and says whether it read its
standard input (which is then used up for whatever runs next on the same input).

The utilities read their options the usual way: letters bundled after one dash, a
letter that takes a value takes the rest of its word or the next word, options may
come after operands, `--` ends them, and a lone `-` is an operand.  A bad option is
reported with a hint at `--help`.

Messages quote names in three ways, each a utility's choice: in typographic quotes
(`‘name’`), always in apostrophes (`'name'`), or in apostrophes only when the name
holds characters the shell would read specially.
-/

namespace BuildWorker.Shell

open Text

/-- What a utility is given. -/
structure ToolCall where
  args : List String
  stdin : List UInt8
  /-- Whether standard input is a regular file, whose size is known in advance. -/
  stdinIsFile : Bool := false
  cwd : List String
  files : FileTree
  env : List (String × String)
  deriving Repr, Inhabited

/-- What a utility leaves: what it wrote, to standard output (1) or standard error (2),
in the order it wrote it. -/
structure ToolResult where
  writes : Array (Nat × List UInt8) := #[]
  status : Nat := 0
  files : FileTree
  /-- Whether the utility read its standard input. -/
  readInput : Bool := false
  deriving Repr, Inhabited

namespace ToolCall

/-- A path of the call's arguments, read from its working directory. -/
def path (c : ToolCall) (p : String) : List String := resolvePath c.cwd p

/-- Success with output. -/
def done (c : ToolCall) (out : List UInt8) : ToolResult := { writes := #[(1, out)], files := c.files }

/-- Failure with message lines. -/
def failLines (c : ToolCall) (lines : List String) (status : Nat) : ToolResult :=
  { writes := #[(2, encode (String.join (lines.map (· ++ "\n"))))], status, files := c.files }

/-- Failure with a message line. -/
def failWith (c : ToolCall) (message : String) (status : Nat) : ToolResult :=
  c.failLines [message] status

/-- A start with nothing written. -/
def start (c : ToolCall) : ToolResult := { files := c.files }

end ToolCall

namespace ToolResult

/-- Adds output. -/
def write (r : ToolResult) (out : List UInt8) : ToolResult :=
  if out.isEmpty then r else { r with writes := r.writes.push (1, out) }

/-- Adds a message line and fails with a status. -/
def complain (r : ToolResult) (message : String) (status : Nat) : ToolResult :=
  { r with writes := r.writes.push (2, encode (message ++ "\n")), status }

/-- Everything written to standard output. -/
def out (r : ToolResult) : List UInt8 := (r.writes.toList.filter (·.1 == 1)).flatMap (·.2)

end ToolResult

/-- The hint after a usage error. -/
def helpHint (tool : String) : String := "Try '" ++ tool ++ " --help' for more information."

/-! ## Quoting names in messages -/

/-- A name in typographic quotes. -/
def quoteName (s : String) : String := "‘" ++ s ++ "’"

/-- A name in apostrophes, an apostrophe in it written as `'\''`. -/
def quoteAlways (s : String) : String :=
  "'" ++ String.join (s.toList.map fun c => if c == '\'' then "'\\''" else c.toString) ++ "'"

/-- Whether a name holds a character that the shell reads specially. -/
def needsShellQuotes (s : String) : Bool :=
  s.isEmpty || s.toList.zipIdx.any fun (c, i) =>
    " \t\n!\"$&'()*;<=>?[\\]^|".toList.contains c || c == '\x60' ||
      ((c == '#' || c == '~') && i == 0) ||
      ((c == '\x7b' || c == '\x7d') && s.length == 1)

/-- A name in apostrophes when it needs them, else as it is. -/
def quoteIfNeeded (s : String) : String := if needsShellQuotes s then quoteAlways s else s

/-! ## Options -/

/-- How a utility refuses a digit given as an option. -/
inductive DigitRefusal where
  | trailing
  | misplaced
  deriving DecidableEq, Repr

/-- The options a utility takes: letters alone, letters with a value, and long names
with the letter each stands for and whether it takes a value. -/
structure OptionSpec where
  flags : List Char := []
  valued : List Char := []
  long : List (String × Char × Bool) := []
  /-- What a digit given as an option is, when digits are known but refused. -/
  digits : Option DigitRefusal := none

/-- An option read: its letter and its value. -/
structure OptionItem where
  letter : Char
  value : Option String := none
  deriving Repr, Inhabited

/-- Why options could not be read. -/
inductive OptionFault where
  | unknown (c : Char)
  /-- A digit after a count already given in the old form. -/
  | trailing (c : Char)
  /-- A digit where only the old form may have one. -/
  | misplaced (c : Char)
  | missingValue (c : Char)
  | unknownLong (name : String)
  | missingLongValue (name : String)
  deriving Repr, Inhabited

/-- The wording of an option fault. -/
def OptionFault.message : OptionFault → String
  | .unknown c => "invalid option -- '" ++ c.toString ++ "'"
  | .trailing c => "invalid trailing option -- " ++ c.toString
  | .misplaced c => "option used in invalid context -- " ++ c.toString
  | .missingValue c => "option requires an argument -- '" ++ c.toString ++ "'"
  | .unknownLong n => "unrecognized option '--" ++ n ++ "'"
  | .missingLongValue n => "option '--" ++ n ++ "' requires an argument"

/-- Reads a bundle of letters after a dash; gives the options and whether the next word
was taken as a value. -/
def readBundle (spec : OptionSpec) (next : Option String) :
    List Char → Except OptionFault (List OptionItem × Bool)
  | [] => .ok ([], false)
  | c :: rest =>
      if spec.valued.contains c then
        if !rest.isEmpty then .ok ([{ letter := c, value := some (String.ofList rest) }], false)
        else
          match next with
          | some v => .ok ([{ letter := c, value := some v }], true)
          | none => .error (.missingValue c)
      else if spec.flags.contains c then
        (readBundle spec next rest).map fun (items, took) => ({ letter := c } :: items, took)
      else
        match spec.digits with
        | some .trailing => .error (if c.isDigit then .trailing c else .unknown c)
        | some .misplaced => .error (if c.isDigit then .misplaced c else .unknown c)
        | none => .error (.unknown c)

/-- Reads a long option `--name` or `--name=value`; a unique prefix of a name is enough. -/
def readLong (spec : OptionSpec) (body : String) (next : Option String) :
    Except OptionFault (OptionItem × Bool) :=
  let name := String.ofList (body.toList.takeWhile (· != '='))
  let inline := if body.toList.contains '=' then some (String.ofList ((body.toList.dropWhile (· != '=')).drop 1)) else none
  let exact := spec.long.find? (·.1 == name)
  let candidates := spec.long.filter (·.1.startsWith name)
  let found := match exact with
    | some e => some e
    | none => match candidates with
      | [one] => some one
      | _ => none
  match found with
  | none => .error (.unknownLong name)
  | some (full, letter, takesValue) =>
      if takesValue then
        match inline with
        | some v => .ok ({ letter, value := some v }, false)
        | none =>
            match next with
            | some v => .ok ({ letter, value := some v }, true)
            | none => .error (.missingLongValue full)
      else .ok ({ letter }, false)

/-- Reads the options and operands of a utility's arguments, in order. -/
def scanOptions (spec : OptionSpec) : Nat → List String → Except OptionFault (List OptionItem × List String)
  | 0, _ => .ok ([], [])
  | _ + 1, [] => .ok ([], [])
  | fuel + 1, a :: rest =>
      if a == "--" then .ok ([], rest)
      else if a.startsWith "--" then do
        let (item, took) ← readLong spec (String.ofList (a.toList.drop 2)) rest.head?
        let (items, operands) ← scanOptions spec fuel (if took then rest.drop 1 else rest)
        pure (item :: items, operands)
      else if a.startsWith "-" && a.length > 1 then do
        let (items, took) ← readBundle spec rest.head? (a.toList.drop 1)
        let (more, operands) ← scanOptions spec fuel (if took then rest.drop 1 else rest)
        pure (items ++ more, operands)
      else do
        let (items, operands) ← scanOptions spec fuel rest
        pure (items, a :: operands)

/-- Reads options, or fails the call with the fault and the hint. -/
def ToolCall.options (c : ToolCall) (tool : String) (spec : OptionSpec) (status : Nat) :
    Except ToolResult (List OptionItem × List String) :=
  match scanOptions spec (c.args.length + 1) c.args with
  | .ok r => .ok r
  | .error f =>
      match f with
      | .misplaced _ => .error (c.failLines [tool ++ ": " ++ f.message] status)
      | _ => .error (c.failLines [tool ++ ": " ++ f.message, helpHint tool] status)

/-- Whether an option letter was given. -/
def hasOption (items : List OptionItem) (c : Char) : Bool := items.any (·.letter == c)

/-- The last value given to an option letter. -/
def optionValue (items : List OptionItem) (c : Char) : Option String :=
  ((items.filter (·.letter == c)).getLast?).bind (·.value)

/-! ## Lines -/

/-- Splits bytes into lines, each keeping its line feed; a last line may lack one. -/
def splitLinesKeep (bytes : List UInt8) : List (List UInt8) :=
  let (lines, current) := bytes.foldl (fun (acc : Array (List UInt8) × Array UInt8) b =>
    if b == 10 then (acc.1.push (acc.2.push b).toList, #[]) else (acc.1, acc.2.push b)) (#[], #[])
  if current.isEmpty then lines.toList else (lines.push current.toList).toList

/-- Reads a file of the call for a utility, or the failure. -/
def ToolCall.readFile (c : ToolCall) (name : String) : Except SystemFailure (List UInt8) :=
  c.files.read (c.path name) 0

end BuildWorker.Shell
