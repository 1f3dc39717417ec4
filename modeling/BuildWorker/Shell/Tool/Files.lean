import BuildWorker.Shell.Tool.Call
/-!
# Utilities over the file tree

`mkdir`, `rmdir`, `touch`, `rm`, `ls`, `ln`, `cp`, `mv`, `basename`, `dirname` and
`printenv`.  Each works through its operands in order; one that fails is reported and
the others go on, and the status is then 1 (2 for `ls`).

`ls` writes one name per line: the operands that are not directories first, then each
directory's entries, sorted, under a `name:` heading when there is more than one
operand.  Names starting with a dot are left out unless `-a` (with `.` and `..`) or
`-A` asks for them.
-/

namespace BuildWorker.Shell

open Text

/-- The last component of a path, as `basename` gives it: trailing slashes ignored, `/`
for a path of slashes only. -/
def lastComponent (name : String) : String :=
  let trimmed := name.toList.reverse.dropWhile (· == '/') |>.reverse
  if trimmed.isEmpty then (if name.isEmpty then "" else "/")
  else String.ofList (trimmed.reverse.takeWhile (· != '/') |>.reverse)

/-- A path without its last component, as `dirname` gives it: `.` when nothing is left,
`/` when only the root is. -/
def parentText (name : String) : String :=
  let cs := name.toList.reverse.dropWhile (· == '/')
  let cs := cs.dropWhile (· != '/')
  let cs := (cs.dropWhile (· == '/')).reverse
  if cs.isEmpty then (if name.startsWith "/" then "/" else ".") else String.ofList cs

/-! ## Directories and files -/

/-- `mkdir`: makes directories, with `-p` their parents too. -/
def mkdirTool (c : ToolCall) : ToolResult :=
  let spec : OptionSpec :=
    { flags := "pv".toList, valued := ['m'],
      long := [("parents", 'p', false), ("verbose", 'v', false), ("mode", 'm', true)] }
  match c.options "mkdir" spec 1 with
  | .error r => r
  | .ok (items, names) =>
      let parents := hasOption items 'p'
      let verbose := hasOption items 'v'
      if names.isEmpty then c.failLines ["mkdir: missing operand", helpHint "mkdir"] 1
      else
        names.foldl (fun (r : ToolResult) name =>
          let path := c.path name
          let before := r.files
          match r.files.makeDir path parents with
          | .ok t =>
              let parts := name.splitOn "/"
              let prefixes := ((List.range parts.length).map fun k => "/".intercalate (parts.take (k + 1))).filter
                (fun p => !p.isEmpty && !p.endsWith "/")
              let prefixes := if parents then prefixes else [name]
              let made := if verbose then
                  (prefixes.filter fun p => (before.get? (c.path p)).isNone && t.isDir (c.path p)).map fun p =>
                    "mkdir: created directory " ++ quoteAlways p ++ "\n"
                else []
              { r.write (encode (String.join made)) with files := t }
          | .error e => r.complain ("mkdir: cannot create directory " ++ quoteName name ++ ": " ++
              e.plainMessage) 1)
          c.start

/-- `rmdir`: removes empty directories. -/
def rmdirTool (c : ToolCall) : ToolResult :=
  let spec : OptionSpec :=
    { flags := "pv".toList, long := [("parents", 'p', false), ("verbose", 'v', false),
      ("ignore-fail-on-non-empty", 'I', false)] }
  match c.options "rmdir" spec 1 with
  | .error r => r
  | .ok (items, names) =>
      let quietNonEmpty := hasOption items 'I'
      if names.isEmpty then c.failLines ["rmdir: missing operand", helpHint "rmdir"] 1
      else
        names.foldl (fun (r : ToolResult) name =>
          let path := c.path name
          let fail (why : String) := r.complain ("rmdir: failed to remove " ++ quoteAlways name ++ ": " ++ why) 1
          match r.files.entry? path with
          | none => fail "No such file or directory"
          | some .dir =>
              if !(r.files.below path).isEmpty then (if quietNonEmpty then r else fail "Directory not empty")
              else
                match r.files.remove path false true with
                | .ok t => { r with files := t }
                | .error e => fail e.plainMessage
          | some _ => fail "Not a directory")
          c.start

/-- `touch`: creates missing files, empty; `-c` creates none. -/
def touchTool (c : ToolCall) : ToolResult :=
  let spec : OptionSpec :=
    { flags := "acfhm".toList, valued := "drt".toList,
      long := [("no-create", 'c', false), ("date", 'd', true), ("reference", 'r', true)] }
  match c.options "touch" spec 1 with
  | .error r => r
  | .ok (items, names) =>
      let create := !hasOption items 'c'
      if names.isEmpty then c.failLines ["touch: missing file operand", helpHint "touch"] 1
      else
        names.foldl (fun (r : ToolResult) name =>
          let p := c.path name
          match r.files.get? p with
          | some _ => r
          | none =>
              if !create then r
              else
                match r.files.write p [] false with
                | .ok t => { r with files := t }
                | .error e => r.complain ("touch: cannot touch " ++ quoteAlways name ++ ": " ++
                    e.plainMessage) 1)
          c.start

/-- `rm`: removes files, directories too with `-r` (empty ones with `-d`); `-f` is quiet
about missing ones. -/
def rmTool (c : ToolCall) : ToolResult :=
  let spec : OptionSpec :=
    { flags := "dfiIrRv".toList,
      long := [("force", 'f', false), ("recursive", 'r', false), ("dir", 'd', false),
        ("verbose", 'v', false)] }
  match c.options "rm" spec 1 with
  | .error r => r
  | .ok (items, names) =>
      let force := hasOption items 'f'
      let recursive := hasOption items 'r' || hasOption items 'R'
      let dirs := hasOption items 'd'
      let verbose := hasOption items 'v'
      if names.isEmpty && !force then c.failLines ["rm: missing operand", helpHint "rm"] 1
      else
        names.foldl (fun (r : ToolResult) name =>
          let path := c.path name
          let fail (why : String) := r.complain ("rm: cannot remove " ++ quoteAlways name ++ ": " ++ why) 1
          let base := lastComponent name
          if base == "." || base == ".." then
            r.complain ("rm: refusing to remove '.' or '..' directory: skipping " ++ quoteAlways name) 1
          else if path.isEmpty && recursive then
            (r.complain "rm: it is dangerous to operate recursively on '/'" 1).complain
              "rm: use --no-preserve-root to override this failsafe" 1
          else
            match r.files.entry? path with
            | none => if force then r else fail "No such file or directory"
            | some .dir =>
                if !recursive && !dirs then fail "Is a directory"
                else if !recursive && !(r.files.below path).isEmpty then fail "Directory not empty"
                else
                  match r.files.remove path true true with
                  | .ok t =>
                      { r.write (if verbose then encode ("removed directory " ++ quoteAlways name ++ "\n") else []) with
                        files := t }
                  | .error e => fail e.plainMessage
            | some _ =>
                match r.files.remove path false false with
                | .ok t =>
                    { r.write (if verbose then encode ("removed " ++ quoteAlways name ++ "\n") else []) with
                      files := t }
                | .error e => fail e.plainMessage)
          c.start

/-! ## Listing -/

/-- The entries `ls` shows of a directory: sorted, with hidden ones only when asked. -/
def listedEntries (t : FileTree) (path : List String) (all almostAll : Bool) : List String :=
  let names := t.children path
  if all then [".", ".."] ++ names
  else if almostAll then names
  else names.filter (!·.startsWith ".")

/-- `ls`. -/
def lsTool (c : ToolCall) : ToolResult :=
  let spec : OptionSpec :=
    { flags := "1aAdFprR".toList,
      long := [("all", 'a', false), ("almost-all", 'A', false), ("directory", 'd', false),
        ("classify", 'F', false), ("reverse", 'r', false), ("recursive", 'R', false)] }
  match c.options "ls" spec 2 with
  | .error r => r
  | .ok (items, operands) =>
      let all := hasOption items 'a'
      let almostAll := hasOption items 'A'
      let asFiles := hasOption items 'd'
      let reverse := hasOption items 'r'
      let mark := hasOption items 'F' || hasOption items 'p'
      let order (xs : List String) : List String :=
        let sorted := xs.mergeSort fun a b => decide (a ≤ b)
        if reverse then sorted.reverse else sorted
      let shownName (dir : List String) (n : String) : String :=
        if mark && n != "." && n != ".." && c.files.isDir (dir ++ [n]) then n ++ "/" else n
      let named := if operands.isEmpty then ["."] else operands
      -- operands are checked first: missing ones are reported before anything is listed
      let (r, files, dirs) := named.foldl (fun (acc : ToolResult × List String × List String) name =>
        let (r, files, dirs) := acc
        let p := c.path name
        match c.files.entry? p, c.files.get? p with
        | none, _ => (r.complain ("ls: cannot access " ++ quoteAlways name ++ ": No such file or directory") 2,
            files, dirs)
        | some _, some .dir => if asFiles then (r, files ++ [name], dirs) else (r, files, dirs ++ [name])
        | some _, _ => (r, files ++ [name], dirs)) (c.start, [], [])
      let fileLines := (order files).map fun n =>
        if mark && c.files.isDir (c.path n) then n ++ "/\n" else n ++ "\n"
      let recursive := hasOption items 'R'
      let headed := named.length > 1 || recursive
      let entries (p : List String) : List String :=
        listedEntries c.files p all almostAll |> fun xs => if reverse then xs.reverse else xs
      -- with `-R` each directory is followed by those inside it, depth first
      let rec blocksOf : Nat → String → List String
        | 0, _ => []
        | fuel + 1, d =>
            let p := c.path d
            let names := entries p
            let body := String.join (names.map fun n => shownName p n ++ "\n")
            let here := (if headed then d ++ ":\n" else "") ++ body
            let inner := if !recursive then [] else
              (names.filter fun n => n != "." && n != ".." &&
                c.files.get? (p ++ [n]) == some .dir && (c.files.entry? (p ++ [n])) == some .dir).flatMap
                fun n => blocksOf fuel (if d.endsWith "/" then d ++ n else d ++ "/" ++ n)
            here :: inner
      let dirBlocks := (order dirs).flatMap (blocksOf (c.files.nodes.length + 1))
      let blocks := (if fileLines.isEmpty then [] else [String.join fileLines]) ++ dirBlocks
      r.write (encode ("\n".intercalate blocks))

/-! ## Links, copies and moves -/

/-- The path an operand names as a destination: inside it when it is a directory. -/
def destinationPath (c : ToolCall) (source dest : String) : List String :=
  let d := c.path dest
  if c.files.isDir d then d ++ [lastComponent source] else d

/-- `ln`: a symbolic link (`-s`) holding the target's text, or a second name for a file;
`-f` replaces what is there. -/
def lnTool (c : ToolCall) : ToolResult :=
  let spec : OptionSpec :=
    { flags := "fnsTv".toList,
      long := [("symbolic", 's', false), ("force", 'f', false), ("no-dereference", 'n', false)] }
  match c.options "ln" spec 1 with
  | .error r => r
  | .ok (items, operands) =>
      let symbolic := hasOption items 's'
      let force := hasOption items 'f'
      match operands with
      | [] => c.failLines ["ln: missing file operand", helpHint "ln"] 1
      | _ =>
          let (targets, dest) := match operands with
            | [one] => ([one], ".")
            | _ => (operands.dropLast, operands.getLast?.getD ".")
          targets.foldl (fun (r : ToolResult) target =>
            let linkPath := destinationPath c target dest
            let shownLink := if c.files.isDir (c.path dest) then
                (if dest.endsWith "/" then dest else dest ++ "/") ++ lastComponent target
              else dest
            let kind := if symbolic then "symbolic link" else "hard link"
            let existing := r.files.entry? linkPath
            if existing.isSome && !force then
              r.complain ("ln: failed to create " ++ kind ++ " " ++ quoteAlways shownLink ++ ": File exists") 1
            else
              let files := if existing.isSome then (r.files.remove linkPath false false).toOption.getD r.files else r.files
              let node : Except String FileNode :=
                if symbolic then .ok (.link target)
                else
                  match files.get? (c.path target) with
                  | some .dir => .error ("ln: " ++ quoteAlways target ++ ": hard link not allowed for directory")
                  | some n => .ok n
                  | none => .error ("ln: failed to access " ++ quoteAlways target ++ ": No such file or directory")
              match node with
              | .error m => r.complain m 1
              | .ok n =>
                  match files.parentReady linkPath with
                  | .ok () => { r with files := files.putRaw linkPath n }
                  | .error e => r.complain ("ln: failed to create " ++ kind ++ " " ++ quoteAlways shownLink ++
                      ": " ++ e.plainMessage) 1)
            c.start

/-- Moves or copies everything at and below one path to another. -/
def transplantPaths (t : FileTree) (source dest : List String) (keepSource : Bool) : FileTree :=
  let moved := (t.nodes.filter fun (p, _) => p.take source.length == source).map fun (p, n) =>
    (dest ++ p.drop source.length, n)
  let kept := t.nodes.filter fun (p, _) =>
    !(p.take dest.length == dest) && (keepSource || !(p.take source.length == source))
  { nodes := kept ++ moved }

/-- `cp` and `mv`: files (and with `cp -r` directories) to a new name or into a
directory. -/
def copyTool (tool : String) (c : ToolCall) : ToolResult :=
  let spec : OptionSpec :=
    { flags := "afinprRTuv".toList,
      long := [("recursive", 'r', false), ("force", 'f', false), ("archive", 'a', false)] }
  match c.options tool spec 1 with
  | .error r => r
  | .ok (items, operands) =>
      let recursive := tool == "mv" || hasOption items 'r' || hasOption items 'R' || hasOption items 'a'
      match operands with
      | [] => c.failLines [tool ++ ": missing file operand", helpHint tool] 1
      | [one] => c.failLines [tool ++ ": missing destination file operand after " ++ quoteAlways one,
          helpHint tool] 1
      | _ =>
          let dest := operands.getLast?.getD ""
          let sources := operands.dropLast
          if sources.length > 1 && !c.files.isDir (c.path dest) then
            c.failWith (tool ++ ": target " ++ quoteAlways dest ++ " is not a directory") 1
          else
            sources.foldl (fun (r : ToolResult) source =>
              let from_ := c.path source
              let target := destinationPath c source dest
              match r.files.get? from_ with
              | none =>
                  r.complain (tool ++ ": cannot stat " ++ quoteAlways source ++ ": No such file or directory") 1
              | some .dir =>
                  if !recursive then
                    r.complain (tool ++ ": -r not specified; omitting directory " ++ quoteAlways source) 1
                  else if target.take from_.length == from_ then
                    r.complain (tool ++ ": cannot " ++ (if tool == "mv" then "move" else "copy") ++ " " ++
                      quoteAlways source ++ " to a subdirectory of itself, " ++ quoteAlways (pathText target)) 1
                  else
                    match r.files.get? target with
                    | some (.file _) =>
                        r.complain (tool ++ ": cannot overwrite non-directory " ++ quoteAlways (pathText target) ++
                          " with directory " ++ quoteAlways source) 1
                    | _ => { r with files := transplantPaths r.files from_ target (tool == "cp") }
              | some node =>
                  if from_ == target then
                    r.complain (tool ++ ": " ++ quoteAlways source ++ " and " ++ quoteAlways dest ++
                      " are the same file") 1
                  else
                    match r.files.parentReady target with
                    | .error e =>
                        r.complain (tool ++ ": cannot " ++ (if tool == "mv" then "move" else "create regular file") ++
                          " " ++ quoteAlways dest ++ ": " ++ e.plainMessage) 1
                    | .ok () =>
                        let files := r.files.putRaw target node
                        let files := if tool == "mv" then { nodes := files.nodes.filter (·.1 != from_) } else files
                        { r with files })
              c.start

/-! ## Names -/

/-- `basename name [suffix]`, or with `-a`/`-s` several names. -/
def basenameTool (c : ToolCall) : ToolResult :=
  let spec : OptionSpec :=
    { flags := "az".toList, valued := ['s'],
      long := [("multiple", 'a', false), ("suffix", 's', true), ("zero", 'z', false)] }
  match c.options "basename" spec 1 with
  | .error r => r
  | .ok (items, operands) =>
      let suffixOpt := optionValue items 's'
      let multiple := hasOption items 'a' || suffixOpt.isSome
      let strip (suffix : String) (base : String) : String :=
        if !suffix.isEmpty && base.endsWith suffix && base != suffix then
          String.ofList (base.toList.take (base.length - suffix.length))
        else base
      let ending := if hasOption items 'z' then "\x00" else "\n"
      match operands with
      | [] => c.failLines ["basename: missing operand", helpHint "basename"] 1
      | name :: rest =>
          if multiple then
            c.done (encode (String.join (operands.map fun n => strip (suffixOpt.getD "") (lastComponent n) ++ ending)))
          else
            match rest with
            | [] => c.done (encode (lastComponent name ++ ending))
            | [suffix] => c.done (encode (strip suffix (lastComponent name) ++ ending))
            | _ => c.failLines ["basename: extra operand " ++ quoteName (rest.getD 1 ""), helpHint "basename"] 1

/-- `dirname`: each name without its last component. -/
def dirnameTool (c : ToolCall) : ToolResult :=
  let spec : OptionSpec := { flags := ['z'], long := [("zero", 'z', false)] }
  match c.options "dirname" spec 1 with
  | .error r => r
  | .ok (items, operands) =>
      let ending := if hasOption items 'z' then "\x00" else "\n"
      if operands.isEmpty then c.failLines ["dirname: missing operand", helpHint "dirname"] 1
      else c.done (encode (String.join (operands.map fun n => parentText n ++ ending)))

/-- `printenv`: the values of exported variables, all of them as `name=value` lines
without operands. -/
def printenvTool (c : ToolCall) : ToolResult :=
  match c.args with
  | [] => c.done (encode (String.join (c.env.map fun (n, v) => n ++ "=" ++ v ++ "\n")))
  | names =>
      let found := names.filterMap (fun n => List.lookup n c.env)
      { c.done (encode (String.join (found.map (· ++ "\n")))) with
        status := if found.length == names.length then 0 else 1 }

end BuildWorker.Shell
