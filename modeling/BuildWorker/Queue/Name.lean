import BuildWorker.Text.Blank
import BuildWorker.Text.WordClass
import BuildWorker.Error

/-!
# Queue names

A queue is named `user/queue`.  Reading a name trims Unicode blanks and then asks for
one slash between two non-empty runs of word characters, dots and dashes; the error
quotes the name as it was given.  Writing joins the two sides with a slash.
-/

namespace BuildWorker

open Text

/-- A queue on the server: the owning user and the queue's own name. -/
structure QueueName where
  user : String
  queue : String
  deriving DecidableEq, Repr, Inhabited

namespace QueueName

/-- A character allowed on either side of the slash. -/
def isNameChar (c : Char) : Bool :=
  isWordChar c || c == '.' || c == '-'

/-- A non-empty run of name characters. -/
def isSide (cs : List Char) : Bool :=
  !cs.isEmpty && cs.all isNameChar

/-- The sides of a trimmed name, split at its first slash. -/
def sides? (cs : List Char) : Option (List Char × List Char) :=
  match cs.span (· != '/') with
  | (user, '/' :: queue) => if isSide user && isSide queue then some (user, queue) else none
  | _ => none

/-- Reads a queue name, trimming blanks first. -/
def parse (s : String) : Except ConfigError QueueName :=
  match sides? (trimBlank s.toList) with
  | some (user, queue) => .ok ⟨String.ofList user, String.ofList queue⟩
  | none => .error (.invalidQueueName s)

/-- The text of a queue name. -/
def render (q : QueueName) : String :=
  q.user ++ "/" ++ q.queue

end QueueName

end BuildWorker
