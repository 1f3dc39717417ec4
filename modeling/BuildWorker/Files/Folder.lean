import BuildWorker.Error
import BuildWorker.Text.Utf8

/-!
# Directories

The worker keeps its state in a few plain directories.  A directory here is a list of
named entries, each a file or a subdirectory.  A file carries a node number besides its
bytes: overwriting a file keeps its node, removing it and creating another of the same
name gives a new one.  Locks are taken on nodes, so a lock on a removed file is lost with
it.

Each operation fails the way the operating system does: reading or removing a missing
name is `notFound`, reading, writing or removing a directory as a file is
`isDirectory`.
-/

set_option autoImplicit false

namespace BuildWorker

/-- What a name in a directory holds. -/
inductive Entry where
  | file (node : Nat) (bytes : List UInt8)
  | dir
  deriving DecidableEq, Repr

/-- A directory: entries by name, and the next unused node number. -/
structure Folder where
  entries : List (String × Entry) := []
  nextNode : Nat := 0
  deriving Repr

/-- The entry under a name. -/
def Folder.get? (f : Folder) (name : String) : Option Entry :=
  (f.entries.find? (·.1 == name)).map (·.2)

/-- The names in a directory, sorted. -/
def Folder.names (f : Folder) : List String :=
  (f.entries.map (·.1)).mergeSort (fun a b => decide (a ≤ b))

/-- The bytes of a file. -/
def Folder.readBytes (f : Folder) (name : String) : Except SystemFailure (List UInt8) :=
  match f.get? name with
  | some (.file _ bytes) => .ok bytes
  | some .dir => .error .isDirectory
  | none => .error .notFound

/-- Bytes as text, when they are valid UTF-8. -/
def textOfBytes? (bytes : List UInt8) : Option String :=
  String.fromUTF8? (ByteArray.mk bytes.toArray)

/-- The text of a file; bytes that are not UTF-8 are refused. -/
def Folder.readText (f : Folder) (name : String) : Except SystemFailure String := do
  let bytes ← f.readBytes name
  match textOfBytes? bytes with
  | some s => .ok s
  | none => .error .invalidUtf8

/-- Replaces or adds an entry, keeping the order of the others. -/
def Folder.put (f : Folder) (name : String) (e : Entry) : Folder :=
  if f.entries.any (·.1 == name) then
    { f with entries := f.entries.map fun (n, old) => if n == name then (n, e) else (n, old) }
  else { f with entries := f.entries ++ [(name, e)] }

/-- Writes a file: an existing file is overwritten in place, a new one gets a fresh node. -/
def Folder.write (f : Folder) (name : String) (bytes : List UInt8) : Except SystemFailure Folder :=
  match f.get? name with
  | some (.file node _) => .ok (f.put name (.file node bytes))
  | some .dir => .error .isDirectory
  | none => .ok ({ f.put name (.file f.nextNode bytes) with nextNode := f.nextNode + 1 })

/-- Writes a text file. -/
def Folder.writeText (f : Folder) (name : String) (text : String) : Except SystemFailure Folder :=
  f.write name (Text.encode text)

/-- Removes a file. -/
def Folder.remove (f : Folder) (name : String) : Except SystemFailure Folder :=
  match f.get? name with
  | some (.file ..) => .ok { f with entries := f.entries.filter (·.1 != name) }
  | some .dir => .error .isDirectory
  | none => .error .notFound

/-- Moves a file to another name, replacing a file there. -/
def Folder.rename (f : Folder) (src dst : String) : Except SystemFailure Folder :=
  match f.get? src, f.get? dst with
  | none, _ => .error .notFound
  | some _, some .dir => .error .isDirectory
  | some e, _ =>
      if src == dst then .ok f
      else .ok ({ f with entries := f.entries.filter (·.1 != src) }.put dst e)

/-- Makes a subdirectory, if the name is free. -/
def Folder.makeDir (f : Folder) (name : String) : Folder :=
  match f.get? name with
  | some _ => f
  | none => f.put name .dir

/-- The node of a file. -/
def Folder.nodeOf? (f : Folder) (name : String) : Option Nat :=
  match f.get? name with
  | some (.file node _) => some node
  | _ => none

/-- Whether a file name has an extension: a dot that is not its first character. -/
def hasExtension (name : String) : Bool :=
  name != ".." && (name.toList.drop 1).contains '.'

/-- The extension of a file name: what follows its last dot, unless that dot is the
first character. -/
def extensionOf? (name : String) : Option String :=
  if !hasExtension name then none
  else some (String.ofList (name.toList.reverse.takeWhile (· != '.')).reverse)

end BuildWorker
