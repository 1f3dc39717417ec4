import BuildWorker.Error
/-!
# A file tree

The files a build sees: every node under its absolute path.  A path is a list of names
from the root; text paths are read relative to a working directory, with empty and `.`
parts dropped and `..` going up (at the root it stays there).

Programs are files in `/usr/bin`, the only ones that can be run; their contents are not
known.  Two device files behave as their namesakes: `/dev/null` reads as nothing and swallows
what is written, `/dev/zero` reads as zero bytes without end.  A symbolic link holds the
text of its target, read from the link's directory; looking a path up follows links,
at most sixteen of them.

Each operation fails the way the operating system does: a missing file or parent is
`notFound`, a file where a directory is needed `notDirectory`, a directory where a
file is needed `isDirectory`, an existing name `alreadyExists`.
-/

namespace BuildWorker

/-- The operating system's wording of a failure, without its number. -/
def SystemFailure.plainMessage : SystemFailure → String
  | .notFound => "No such file or directory"
  | .isDirectory => "Is a directory"
  | .notDirectory => "Not a directory"
  | .alreadyExists => "File exists"
  | .permissionDenied => "Permission denied"
  | .invalidUtf8 => "Invalid argument"
  | .networkUnreachable => "Network is unreachable"

/-- What a path holds. -/
inductive FileNode where
  | file (bytes : List UInt8)
  | dir
  | nullDevice
  | zeroDevice
  | link (target : String)
  deriving DecidableEq, Repr, Inhabited

/-- Every node by its path, a list of names from the root. -/
structure FileTree where
  nodes : List (List String × FileNode) := []
  deriving Repr, Inhabited

/-- The name of the scratch directory a run is given.  What the program reports writes
paths in it from this name: `$TMP/builds` is a path in it, and a path that starts with
the name is read from it whatever the working directory. -/
def scratchRoot : String := "$TMP"

/-- Where the scratch directory is on the host, as names from the root: `/tmp/run`.
Programs that ask where they are see this path; the reports write it as `$TMP`. -/
def scratchHost : List String := ["tmp", "run"]

/-- The text of the scratch directory's path on the host. -/
def scratchHostText : String := String.join (scratchHost.map ("/" ++ ·))

/-- One part of a path read from the names reached so far: an empty part and `.` stay,
`..` goes up (from the scratch directory to its parent on the host), and any other part
goes down into it. -/
def stepName (names : List String) (part : String) : List String :=
  if part.isEmpty || part == "." then names
  else if part == ".." then (if names == [scratchRoot] then scratchHost.dropLast else names.dropLast)
  else names ++ [part]

/-- The names reached by reading parts of a path from a directory; a path through the
scratch directory's place on the host is a path in it. -/
def resolveNames (start parts : List String) : List String :=
  let names := parts.foldl stepName start
  if names.take scratchHost.length == scratchHost then scratchRoot :: names.drop scratchHost.length
  else names

/-- The names of a path read relative to a directory. -/
def resolvePath (cwd : List String) (path : String) : List String :=
  let start := if path.startsWith "/" || path == scratchRoot || path.startsWith (scratchRoot ++ "/")
    then [] else cwd
  resolveNames start (path.splitOn "/")

/-- The text of a path; one in the scratch directory is written from its name. -/
def pathText (names : List String) : String :=
  match names with
  | [] => "/"
  | first :: rest =>
      if first == scratchRoot then String.join (first :: rest.map ("/" ++ ·))
      else String.join (names.map ("/" ++ ·))

/-- The text of a path as a program on the host sees it: one in the scratch directory
starts with the directory's place on the host. -/
def hostPathText (names : List String) : String :=
  match names with
  | first :: rest =>
      if first == scratchRoot then pathText (scratchHost ++ rest) else pathText names
  | [] => "/"

/-- Output with the scratch directory's place on the host written as `$TMP`, as the
reports write it. -/
def reportScratch (bytes : List UInt8) : List UInt8 :=
  let host := scratchHostText.toUTF8.toList
  let root := scratchRoot.toUTF8.toList
  let rec go : Nat → List UInt8 → List UInt8
    | 0, rest => rest
    | _ + 1, [] => []
    | fuel + 1, b :: rest =>
        if b == 47 && (b :: rest).take host.length == host then root ++ go fuel ((b :: rest).drop host.length)
        else b :: go fuel rest
  go (bytes.length + 1) bytes

namespace FileTree

/-- The node stored at a path, without following a link there. -/
def entry? (t : FileTree) (path : List String) : Option FileNode :=
  if path.isEmpty then some .dir else t.nodes.lookup path

/-- A path with the links along it followed: the path of what it names, whether that
exists or not; none for a loop of links. -/
def canonical (t : FileTree) (path : List String) : Option (List String) :=
  let rec walk : Nat → List String → List String → Option (List String)
    | 0, _, _ => none
    | _ + 1, done, [] => some done
    | fuel + 1, done, name :: rest =>
        match t.entry? (done ++ [name]) with
        | some (.link target) => walk fuel [] (resolvePath done target ++ rest)
        | _ => walk fuel (done ++ [name]) rest
  walk (path.length + 16) [] path

/-- The node at a path, following links. -/
def get? (t : FileTree) (path : List String) : Option FileNode :=
  (t.canonical path).bind t.entry?

/-- Whether a path is a directory. -/
def isDir (t : FileTree) (path : List String) : Bool := t.get? path == some .dir

/-- Whether a path is a regular file. -/
def isFile (t : FileTree) (path : List String) : Bool :=
  match t.get? path with
  | some (.file _) => true
  | _ => false

/-- Sets the node at a path, keeping the order of the others. -/
def putRaw (t : FileTree) (path : List String) (n : FileNode) : FileTree :=
  if t.nodes.any (·.1 == path) then
    { nodes := t.nodes.map fun (p, old) => if p == path then (p, n) else (p, old) }
  else { nodes := t.nodes ++ [(path, n)] }

/-- Sets the node at a path, following links to it. -/
def put (t : FileTree) (path : List String) (n : FileNode) : FileTree :=
  t.putRaw ((t.canonical path).getD path) n

/-- Whether the parent of a path is a directory, or why not. -/
def parentReady (t : FileTree) (path : List String) : Except SystemFailure Unit :=
  match t.get? path.dropLast with
  | some .dir => .ok ()
  | some _ => .error .notDirectory
  | none =>
      if (List.range path.length).any (fun k => k > 0 && k < path.length &&
          match t.get? (path.take k) with
          | some .dir => false
          | some _ => true
          | none => false) then .error .notDirectory
      else .error .notFound

/-- The bytes of a file; reading `/dev/zero` gives `limit` zeros. -/
def read (t : FileTree) (path : List String) (limit : Nat) : Except SystemFailure (List UInt8) :=
  match t.get? path with
  | some (.file bytes) => .ok bytes
  | some .dir => .error .isDirectory
  | some .nullDevice => .ok []
  | some .zeroDevice => .ok (List.replicate limit 0)
  | some (.link _) => .error .notFound
  | none =>
      match t.parentReady path with
      | .error e => .error e
      | .ok () => .error .notFound

/-- Writes bytes to a file, replacing or extending it; devices swallow them. -/
def write (t : FileTree) (path : List String) (bytes : List UInt8) (append : Bool) :
    Except SystemFailure FileTree :=
  match t.get? path with
  | some (.file old) => .ok (t.put path (.file (if append then old ++ bytes else bytes)))
  | some .dir => .error .isDirectory
  | some _ => .ok t
  | none =>
      match t.parentReady path with
      | .error e => .error e
      | .ok () => .ok (t.put path (.file bytes))

/-- Makes a directory; with `parents`, also the missing ones above it, and an existing
directory is no error. -/
def makeDir (t : FileTree) (path : List String) (parents : Bool) : Except SystemFailure FileTree :=
  if parents then
    (List.range path.length).foldl (fun acc k =>
      acc.bind fun t =>
        let p := path.take (k + 1)
        match t.get? p with
        | some .dir => .ok t
        | some _ => .error (if k + 1 == path.length then .alreadyExists else .notDirectory)
        | none => .ok (t.put p .dir)) (.ok t)
  else
    match t.get? path with
    | some _ => .error .alreadyExists
    | none =>
        match t.parentReady path with
        | .error e => .error e
        | .ok () => .ok (t.put path .dir)

/-- The paths strictly below a directory. -/
def below (t : FileTree) (path : List String) : List (List String) :=
  (t.nodes.map (·.1)).filter fun p => p.length > path.length && p.take path.length == path

/-- The names directly in a directory, sorted. -/
def children (t : FileTree) (path : List String) : List String :=
  ((t.below path).filter (·.length == path.length + 1)).filterMap (·.getLast?)
    |>.mergeSort (fun a b => decide (a ≤ b))

/-- Removes a path; a directory goes with everything below it only when `recursive`, and
otherwise only when empty and `emptyDirs`. -/
def remove (t : FileTree) (path : List String) (recursive emptyDirs : Bool) :
    Except SystemFailure FileTree :=
  match t.entry? path with
  | none => .error .notFound
  | some .dir =>
      if path.isEmpty then .error .permissionDenied
      else if recursive || (emptyDirs && (t.below path).isEmpty) then
        .ok { nodes := t.nodes.filter fun (p, _) => !(p.take path.length == path) }
      else .error .isDirectory
  | some _ => .ok { nodes := t.nodes.filter (·.1 != path) }

/-- The programs installed in `/usr/bin` (which `/bin` links to). -/
def installedPrograms : List String :=
  ["[", "arch", "awk", "b2sum", "base32", "base64", "basename", "basenc", "bash", "cat",
    "chcon", "chgrp", "chmod", "chown", "cksum", "cmp", "comm", "cp", "csplit", "cut", "dash",
    "date", "dd", "df", "diff", "dir", "dircolors", "dirname", "du", "echo", "egrep", "env",
    "expand", "expr", "factor", "false", "fgrep", "find", "fmt", "fold", "grep", "groups",
    "gunzip", "gzip", "head", "hostid", "hostname", "id", "install", "join", "kill", "link",
    "ln", "logname", "ls", "mawk", "md5sum", "mkdir", "mkfifo", "mknod", "mktemp", "more",
    "mv", "nice", "nl", "nohup", "nproc", "numfmt", "od", "paste", "pathchk", "perl", "pinky",
    "pr", "printenv", "printf", "ps", "ptx", "pwd", "rbash", "readlink", "realpath", "rm",
    "rmdir", "runcon", "sed", "seq", "sh", "sha1sum", "sha224sum", "sha256sum", "sha384sum",
    "sha512sum", "shred", "shuf", "sleep", "sort", "split", "stat", "stdbuf", "stty", "sum",
    "sync", "tac", "tail", "tar", "tee", "test", "timeout", "touch", "tr", "true", "truncate",
    "tsort", "tty", "uname", "unexpand", "uniq", "unlink", "users", "vdir", "wc", "which",
    "who", "whoami", "xargs", "yes", "zcat"]

/-- A tree with the root, `/dev` and its two devices, `/tmp`, `/etc/passwd`, the
installed programs, and the given directories with their parents. -/
def standard (dirs : List (List String)) : FileTree :=
  let base : FileTree :=
    { nodes := [(["dev"], .dir), (["dev", "null"], .nullDevice), (["dev", "zero"], .zeroDevice),
        (["tmp"], .dir), (["etc"], .dir),
        (["etc", "passwd"], .file "root:x:0:0:root:/root:/bin/bash\n".toUTF8.toList),
        (["usr"], .dir), (["usr", "bin"], .dir), (["bin"], .link "usr/bin")] ++
      installedPrograms.map fun p => (["usr", "bin", p], .file []) }
  dirs.foldl (fun t d => (t.makeDir d true).toOption.getD t) base

end FileTree

end BuildWorker
