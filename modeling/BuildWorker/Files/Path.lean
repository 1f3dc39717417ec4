import BuildWorker.Files.Folder
/-!
# Paths

Paths are text.  Joining a relative name to a directory puts one `/` between them,
unless the directory is empty or already ends in one.  A leading `~` alone or followed
by `/` stands for the home directory; `~name` is left alone.

The loader of the configuration sees one scratch directory by name: a path that
names it, or a file directly inside it, is looked up there, and every other path is
absent.
-/

set_option autoImplicit false

namespace BuildWorker

/-- Joins a relative name to a directory path. -/
def joinPath (dir name : String) : String :=
  if dir.isEmpty then name
  else if dir.endsWith "/" then dir ++ name
  else dir ++ "/" ++ name

/-- Expands a leading `~` or `~/` to the home directory. -/
def expandHome (home path : String) : String :=
  match path.toList with
  | '~' :: rest =>
      if rest.isEmpty || rest.head? == some '/' then home ++ String.ofList rest else path
  | _ => path

/-- What looking up a path finds. -/
inductive Found where
  | absent
  | directory
  | file (bytes : List UInt8)
  deriving DecidableEq, Repr

/-- Looks up a path in a directory known by the path `root`.  The parts after the
root are taken with empty and `.` parts dropped; a name followed by more parts or by
a final `/` is only found if it is a directory, and the directory's own entries are
all there is. -/
def Folder.find (root : String) (f : Folder) (path : String) : Found :=
  if path == root || path.startsWith (root ++ "/") then
    let rest := String.ofList (path.toList.drop root.length)
    let parts := (rest.splitOn "/").filter fun p => !p.isEmpty && p != "."
    match parts with
    | [] => .directory
    | [name] =>
        match f.get? name with
        | some (.file _ bytes) => if rest.endsWith "/" then .absent else .file bytes
        | some .dir => .directory
        | none => .absent
    | _ => .absent
  else .absent

end BuildWorker
