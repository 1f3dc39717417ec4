import BuildWorker.Queue.Name
import BuildWorker.Error

/-!
# Worker identities

A registered worker is known by the id the server gave it, the queue it serves, and the
host it runs on.  The identity also records whether a worker process is running under
it, and which one: the flag is set while a process holds the worker's running guard, and
a process that died leaves it set.  Such an identity is *stale*: marked running, with no
live process behind it.
-/

set_option autoImplicit false

namespace BuildWorker

/-- The persisted identity of one registered worker. -/
structure Identity where
  workerId : String
  username : String
  queue : String
  platform : String
  hostname : String
  dist : String
  /-- The process holding the running guard, if one does. -/
  pid : Option ProcessId := none
  running : Bool := false
  deriving DecidableEq, Repr, Inhabited

/-- The queue the worker serves. -/
def Identity.queueName (i : Identity) : QueueName := ⟨i.username, i.queue⟩

/-- Marked running, and the recorded process still exists among the processes that do
(the worker's own, and the others named). -/
def Identity.isLive (i : Identity) (others : List Nat := ProcessId.othersAtStart) : Bool :=
  i.running && (i.pid.map (ProcessId.isAlive others)).getD false

/-- Why a worker marked running cannot be taken over, given the other processes that
exist: its process is alive, or it is gone and the identity is stale. -/
def Identity.refusal (i : Identity) (others : List Nat) : WorkerError :=
  match i.pid with
  | some pid =>
      if pid.isAlive others then .alreadyRunning i.workerId pid else .staleIdentity i.workerId
  | none => .staleIdentity i.workerId

/-- Reads a decimal process id as a 32-bit number: an optional `+`, then digits. -/
def parsePid (s : String) : Option Nat :=
  let digits := match s.toList with
    | '+' :: rest => rest
    | cs => cs
  if digits.isEmpty || !digits.all Char.isDigit then none
  else
    let n := digits.foldl (fun acc c => acc * 10 + (c.toNat - 48)) 0
    if n < Nat.pow 2 32 then some n else none

end BuildWorker
