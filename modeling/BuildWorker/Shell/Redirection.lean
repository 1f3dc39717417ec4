import BuildWorker.Shell.Process
/-!
# Redirections

A command's redirections are applied from left to right, each changing one descriptor
(two for `&>`), and the descriptors they change are put back after the command; a
descriptor picked by `{name}>` stays open.

* `n> file` empties or creates the file (refused for an existing file under `set -C`
  unless written `>|`), `n>> file` appends to it, `n< file` reads it; `n<> file` opens
  it both ways.
* `n>&m` and `n<&m` make `n` a copy of `m`, which must be open; `-` closes `n`, and
  `m-` moves `m` to `n`.  A word that is not a number after `>&` sends both standard
  output and standard error to that file.
* A here-document and `<<<` give their text as input.
* `/dev/stdin`, `/dev/stdout`, `/dev/stderr` and `/dev/fd/n` name the descriptors
  themselves, and `/dev/null` swallows what is written.

A redirection that fails says why, puts back what the earlier ones changed, and makes
the command's status 1 without running it.
-/

namespace BuildWorker.Shell

open Text

/-- The descriptor a file name stands for when it names one itself. -/
def deviceDescriptor? (path : String) : Option Nat :=
  match path with
  | "/dev/stdin" => some 0
  | "/dev/stdout" => some 1
  | "/dev/stderr" => some 2
  | _ =>
      if path.startsWith "/dev/fd/" then (String.ofList (path.toList.drop 8)).toNat? else none

/-- The number a descriptor word names: a fixed number, or for `{name}` the number in
the variable (when closing) or a fresh one put there.  Closing through a variable that
is unset, empty or negative is an ambiguous redirection; a value that is no number
closes descriptor 0. -/
def resolveFdSpec (spec : FdSpec) (closing : Bool) : ShellM (Except String (Nat × Bool)) := do
  match spec with
  | .fixed n => pure (.ok (n, false))
  | .named name =>
      let s ← getShell
      let (base, sub) := match name.toList.idxOf? '[' with
        | some k => (String.ofList (name.toList.take k), some (String.ofList ((name.toList.drop (k + 1)).takeWhile (· != ']'))))
        | none => (name, none)
      if closing then
        let value := match sub with
          | some t => s.element? base (if s.isAssoc base then .key t else .index ((t.toInt?).getD 0))
          | none => lookupVar s base
        match value with
        | none | some "" => pure (.error (name ++ ": ambiguous redirect"))
        | some v =>
            let n := (v.trimAscii.toString.toInt?).getD 0
            if n < 0 then pure (.error (name ++ ": ambiguous redirect"))
            else pure (.ok (n.toNat, true))
      else
        let n := s.freeDescriptor
        let slot := sub.map fun t => if s.isAssoc base then Slot.key t else .index ((t.toInt?).getD 0)
        let _ ← setValue base slot (toString n) false
        pure (.ok (n, true))

/-- The one file name a redirection's word expands to, by the expansions of a command's
words (brace groups, tildes, parameters, splitting and file names); none when it gives
no field or several, which makes the redirection ambiguous. -/
def targetName (ev : Evaluator) (fuel : Nat) (t : Target) : ShellM (Option String) := do
  match ← expandWords ev fuel [t.word] with
  | [name] => pure (some name)
  | _ => pure none

/-- A descriptor number written in digits, if it is one a descriptor can have. -/
def descriptorNumber? (cs : List Char) : Option Nat :=
  if !cs.isEmpty && cs.all Char.isDigit then
    (String.ofList cs).toNat?.filter (· ≤ 2147483647)
  else none

/-- A word without the `-` it ends with. -/
def dropFinalDash (w : Word) : Word :=
  match w.reverse with
  | .text t q :: before =>
      let t := if t.endsWith "-" then String.ofList t.toList.dropLast else t
      (if t.isEmpty then before else .text t q :: before).reverse
  | _ => w

/-- Saves the descriptor at a number unless it was saved already. -/
def noteSaved (saved : List SavedDescriptor) (n : Nat) (named : Bool) : ShellM (List SavedDescriptor) := do
  if named || saved.any (·.fd == n) then pure saved else pure ((← saveDescriptor n) :: saved)

/-- Applies one redirection, given the descriptors saved so far: gives them with those it
changed, or why it failed. -/
def applyRedirect (ev : Evaluator) (fuel : Nat) (saved : List SavedDescriptor) (r : Redirect) :
    ShellM (Except String (List SavedDescriptor)) := do
  match r with
  | .output spec target append force =>
      let some name ← targetName ev fuel target | pure (.error (target.written ++ ": ambiguous redirect"))
      let .ok (n, named) ← resolveFdSpec spec false | pure (.error (name ++ ": Bad file descriptor"))
      let s ← getShell
      let path := resolvePath s.cwd name
      let files := (← getWorld).files
      let target : Except String Descriptor :=
        match deviceDescriptor? name with
        | some m =>
            match files.get? path with
            | some (.file _) => .ok (.sink (.file path))
            | _ =>
                match s.descriptor? m with
                | some d => .ok d
                | none => .error (name ++ ": Bad file descriptor")
        | none =>
            if name == "/dev/null" then .ok (.sink .discard)
            else if name.isEmpty then .error (": No such file or directory")
            else
              match files.get? path with
              | some .dir => .error (name ++ ": Is a directory")
              | some (.file _) =>
                  if !append && !force && s.option "noclobber" then
                    .error (name ++ ": cannot overwrite existing file")
                  else .ok (.sink (.file path))
              | _ => .ok (.sink (.file path))
      match target with
      | .error m => pure (.error m)
      | .ok d =>
          if let .sink (.file p) := d then
            match files.write p [] append with
            | .ok t => modifyWorld fun w => { w with files := t }
            | .error e => return .error (name ++ ": " ++ e.plainMessage)
          let saved ← noteSaved saved n named
          modifyShell fun s =>
            let s := s.withDescriptor n (some d)
            if n == 0 then { s with stdinIsFile := false } else s
          pure (.ok saved)
  | .input spec target =>
      let some name ← targetName ev fuel target | pure (.error (target.written ++ ": ambiguous redirect"))
      let .ok (n, named) ← resolveFdSpec spec false | pure (.error (name ++ ": Bad file descriptor"))
      let s ← getShell
      let path := resolvePath s.cwd name
      let files := (← getWorld).files
      let source : Except String (Descriptor × Bool) :=
        match deviceDescriptor? name with
        | some m =>
            match s.descriptor? m with
            | some d => .ok (d, m == 0 && s.stdinIsFile)
            | none => .error (name ++ ": Bad file descriptor")
        | none =>
            if name.isEmpty then .error (": No such file or directory")
            else
              match files.read path 0 with
              | .ok bytes => .ok (.source bytes, files.isFile path)
              | .error e => .error (name ++ ": " ++ e.plainMessage)
      match source with
      | .error m => pure (.error m)
      | .ok (d, isFile) =>
          let saved ← noteSaved saved n named
          modifyShell fun s =>
            let s := s.withDescriptor n (some d)
            if n == 0 then { s with stdinIsFile := isFile } else s
          pure (.ok saved)
  | .readWrite spec target =>
      let some name ← targetName ev fuel target | pure (.error (target.written ++ ": ambiguous redirect"))
      let .ok (n, named) ← resolveFdSpec spec false | pure (.error (name ++ ": Bad file descriptor"))
      let s ← getShell
      let path := resolvePath s.cwd name
      let files := (← getWorld).files
      match files.write path [] true with
      | .error e => pure (.error (name ++ ": " ++ e.plainMessage))
      | .ok t =>
          modifyWorld fun w => { w with files := t }
          let d : Descriptor := if n == 0 then .source ((t.read path 0).toOption.getD []) else .sink (.file path)
          let saved ← noteSaved saved n named
          modifyShell fun s =>
            let s := s.withDescriptor n (some d)
            if n == 0 then { s with stdinIsFile := true } else s
          pure (.ok saved)
  | .duplicate spec target output =>
      let written := target.written
      -- messages about a descriptor name the variable of `{name}`, or else what fits
      let shown (fallback : String) : String := match spec with
        | .named v => v
        | .fixed _ => fallback
      let close : ShellM (Except String (List SavedDescriptor)) := do
        match ← resolveFdSpec spec true with
        | .error m => pure (.error m)
        | .ok (n, named) =>
            let saved ← noteSaved saved n named
            modifyShell (·.withDescriptor n none)
            pure (.ok saved)
      let copyFrom (m : Nat) (name : String) (moving : Bool) : ShellM (Except String (List SavedDescriptor)) := do
        -- a descriptor made a copy of itself stays as it is, open or not
        if spec == .fixed m then return .ok saved
        ev.settle m
        let s ← getShell
        match s.descriptor? m with
        | none => pure (.error (shown name ++ ": Bad file descriptor"))
        | some d =>
            match ← resolveFdSpec spec false with
            | .error e => pure (.error e)
            | .ok (n, named) =>
                let saved ← noteSaved saved n named
                let isFile := m == 0 && s.stdinIsFile
                modifyShell fun s =>
                  let s := s.withDescriptor n (some d)
                  if n == 0 then { s with stdinIsFile := isFile } else s
                if moving && m != n then
                  let saved ← noteSaved saved m false
                  modifyShell (·.withDescriptor m none)
                  pure (.ok saved)
                else pure (.ok saved)
      if written == "-" then close
      else
        -- digits as written name a descriptor, and digits and `-` move one
        let movedLiteral :=
          if written.endsWith "-" then descriptorNumber? written.toList.dropLast else none
        match descriptorNumber? written.toList, movedLiteral with
        | some m, _ => copyFrom m (toString m) false
        | none, some m => copyFrom m (toString m) true
        | none, none =>
            let moving := written.endsWith "-"
            let redirector := match spec with
              | .fixed r => some r
              | .named _ => none
            let standard := if output then 1 else 0
            match ← targetName ev fuel { target with word := if moving then dropFinalDash target.word else target.word } with
            | none => pure (.error (shown written ++ ": ambiguous redirect"))
            | some word =>
                if word == "-" then close
                else if !word.isEmpty && word.all Char.isDigit then
                  let name := match redirector with
                    | some r => if moving || r != standard then toString r else written
                    | none => written
                  match descriptorNumber? word.toList with
                  | some m => copyFrom m name moving
                  | none => pure (.error (shown name ++ ": Bad file descriptor"))
                else if output && !moving && redirector == some 1 then
                  -- `>&file` sends standard output and standard error to the file
                  let s ← getShell
                  let path := resolvePath s.cwd word
                  match (← getWorld).files.write path [] false with
                  | .ok t =>
                      modifyWorld fun w => { w with files := t }
                      let saved ← noteSaved saved 1 false
                      let saved ← noteSaved saved 2 false
                      modifyShell fun s => (s.withDescriptor 1 (some (.sink (.file path)))).withDescriptor 2 (some (.sink (.file path)))
                      pure (.ok saved)
                  | .error e => pure (.error (word ++ ": " ++ e.plainMessage))
                else pure (.error (shown word ++ ": ambiguous redirect"))
  | .outputBoth target append =>
      let some name ← targetName ev fuel target | pure (.error (target.written ++ ": ambiguous redirect"))
      let s ← getShell
      let path := resolvePath s.cwd name
      let files := (← getWorld).files
      let sink : Except String Sink :=
        if name == "/dev/null" then .ok .discard
        else
          match files.get? path with
          | some .dir => .error (name ++ ": Is a directory")
          | some (.file _) =>
              if !append && s.option "noclobber" then .error (name ++ ": cannot overwrite existing file")
              else .ok (.file path)
          | _ => .ok (.file path)
      match sink with
      | .error m => pure (.error m)
      | .ok k =>
          if let .file p := k then
            match files.write p [] append with
            | .ok t => modifyWorld fun w => { w with files := t }
            | .error e => return .error (name ++ ": " ++ e.plainMessage)
          let saved ← noteSaved saved 1 false
          let saved ← noteSaved saved 2 false
          modifyShell fun s => (s.withDescriptor 1 (some (.sink k))).withDescriptor 2 (some (.sink k))
          pure (.ok saved)
  | .hereText spec body newline =>
      let text ← expandText ev fuel body
      let .ok (n, named) ← resolveFdSpec spec false | pure (.error "Bad file descriptor")
      let saved ← noteSaved saved n named
      modifyShell fun s =>
        let s := s.withDescriptor n (some (.source (encode (text ++ (if newline then "\n" else "")))))
        if n == 0 then { s with stdinIsFile := false } else s
      pure (.ok saved)

/-- Applies redirections; gives the descriptors to put back afterwards, or nothing after
a failure (already reported, with the earlier changes put back). -/
def applyRedirects (ev : Evaluator) (fuel : Nat) (redirects : List Redirect) :
    ShellM (Option (List SavedDescriptor)) := do
  let mut saved : List SavedDescriptor := []
  for r in redirects do
    match ← applyRedirect ev fuel saved r with
    | .ok now => saved := now
    | .error message =>
        complain message
        restoreDescriptors saved
        return none
  pure (some saved)

end BuildWorker.Shell
