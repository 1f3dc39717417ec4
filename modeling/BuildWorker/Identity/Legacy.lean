import BuildWorker.Identity.Basic
import BuildWorker.Text.Blank
import BuildWorker.Files.Folder

/-!
# The older identity format

Before identities were YAML files, each worker had a file named by its id, without an
extension, holding `key: value` or `key=value` lines.  The id comes from the file name,
not from the contents.  The queue is either `user/queue` in the `queue` line, or a bare
queue name with the user on a `username` line.

Reading is forgiving: blank lines and `#` comments are skipped, keys are trimmed and
lower-cased, values are trimmed and stripped of surrounding double quotes, a later line
wins over an earlier one for the same key, and lines without a separator are ignored.
Without a queue, or with an empty user or queue, there is no identity.
-/

set_option autoImplicit false

namespace BuildWorker.Legacy

/-- Splits a line at its first `:` or `=`, whichever comes first. -/
def splitEntry (line : List Char) : Option (List Char × List Char) :=
  match line.findIdx? (fun c => c == ':' || c == '=') with
  | some at_ => some (line.take at_, line.drop (at_ + 1))
  | none => none

/-- Drops double quotes from both ends. -/
def stripQuotes (cs : List Char) : List Char :=
  ((cs.dropWhile (· == '"')).reverse.dropWhile (· == '"')).reverse

/-- The entries of a legacy file, in order; a later one overrides an earlier. -/
def entries (contents : String) : List (String × String) :=
  (contents.splitOn "\n").filterMap fun raw =>
    let line := Text.trimBlank raw.toList
    if line.isEmpty || line.head? == some '#' then none
    else (splitEntry line).map fun (k, v) =>
      (String.ofList ((Text.trimBlank k).map Char.toLower),
       String.ofList (stripQuotes (Text.trimBlank v)))

/-- The value of a key: the last entry for it. -/
def field (es : List (String × String)) (key : String) : Option String :=
  (es.reverse.find? (·.1 == key)).map (·.2)

/-- Whether a running flag reads as set (ASCII letters compared without case). -/
def isSetFlag (v : String) : Bool :=
  ["true", "yes", "1"].contains (String.ofList (v.toList.map Char.toLower))

/-- The identity a legacy file describes, if it describes one. -/
def parse (workerId : String) (contents : String) : Option Identity := do
  let es := entries contents
  let queueField ← field es "queue"
  let (username, queue) ← match queueField.toList.findIdx? (· == '/') with
    | some at_ => some (String.ofList (queueField.toList.take at_),
        String.ofList (queueField.toList.drop (at_ + 1)))
    | none => do
        let user ← field es "username"
        pure (user, queueField)
  if username.isEmpty || queue.isEmpty then none
  else some {
    workerId := workerId
    username := username
    queue := queue
    platform := (field es "platform").getD ""
    hostname := (field es "hostname").getD ""
    dist := (field es "dist").getD ""
    pid := ((field es "pid").bind parsePid).map ProcessId.other
    running := ((field es "running").map isSetFlag).getD false }

/-- The legacy identity of a worker in a directory: its file, read as text and parsed.
A missing or unreadable file, or one that describes no identity, gives none. -/
def load (dir : Folder) (workerId : String) : Option Identity :=
  match dir.readText workerId with
  | .ok contents => parse workerId contents
  | .error _ => none

/-- Whether a directory entry can be a legacy file: a file without extension whose
name does not start with a dot. -/
def isCandidate (name : String) (e : Entry) : Bool :=
  (match e with
   | .file .. => true
   | .dir => false) && !hasExtension name && !name.startsWith "."

/-- Every legacy identity in a directory, in the directory's order. -/
def scan (dir : Folder) : List Identity :=
  dir.entries.filterMap fun (name, e) => if isCandidate name e then load dir name else none

end BuildWorker.Legacy
