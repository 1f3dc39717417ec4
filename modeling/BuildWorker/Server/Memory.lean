import BuildWorker.Queue.Name
import BuildWorker.Job.Basic
import BuildWorker.Job.Outcome
import BuildWorker.Error
/-!
# A queue server in memory

The worker talks to its queue server through a handful of requests: register and
remove a worker, claim the next job, hand a job back, report a finished build, send
build output (plainly or with tags), and fetch a job's source archive.  This module is
a server that keeps everything in memory, with knobs that make it behave like a
server that lacks the tagged-output endpoint, asks builds to stop, or drops a number
of output requests.

Workers get the ids `worker-1`, `worker-2`, … in order of registration.  Claiming a
job for a worker the server does not know is refused as not found, which tells a
worker it was removed.
-/

set_option autoImplicit false

namespace BuildWorker

/-- A reported build. -/
structure FinishedBuild where
  jobId : String
  status : BuildStatus
  failed : Bool
  deriving DecidableEq, Repr

/-- Tags sent with tagged build output, sorted by key. -/
abbrev LogTags := List (String × String)

/-- Delivered build output: the job, the text, and the tags for tagged output. -/
structure LogCall where
  jobId : String
  text : String
  tags : Option LogTags
  deriving DecidableEq, Repr

/-- The server's state. -/
structure MemoryQueue where
  registered : Nat := 0
  workers : List (String × QueueName) := []
  jobs : List Job := []
  sources : List (String × List UInt8) := []
  finished : List FinishedBuild := []
  pushed : List String := []
  logs : List LogCall := []
  taggedUnsupported : Bool := false
  taggedAttempts : Nat := 0
  stopBuilds : Bool := false
  failingLogCalls : Nat := 0
  /-- How long the server takes to answer a claim, in microseconds. -/
  claimTime : Nat := 0
  deriving Repr

namespace MemoryQueue

/-- Whether the server knows a worker. -/
def hasWorker (s : MemoryQueue) (workerId : String) : Bool :=
  s.workers.any (·.1 == workerId)

/-- Adds a worker under a given id, replacing one of the same id. -/
def addWorker (s : MemoryQueue) (queue : QueueName) (workerId : String) : MemoryQueue :=
  { s with workers := (s.workers.filter (·.1 != workerId)) ++ [(workerId, queue)] }

/-- Registers a worker and names it by the count of registrations so far. -/
def registerWorker (s : MemoryQueue) (queue : QueueName) : String × MemoryQueue :=
  let id := "worker-" ++ toString (s.registered + 1)
  (id, { s.addWorker queue id with registered := s.registered + 1 })

/-- Forgets a worker; tells whether it was known. -/
def removeWorker (s : MemoryQueue) (workerId : String) : Bool × MemoryQueue :=
  (s.hasWorker workerId, { s with workers := s.workers.filter (·.1 != workerId) })

/-- Claims the next job for a worker; unknown workers are refused. -/
def popJob (s : MemoryQueue) (workerId : String) :
    Except ServerError (Option Job) × MemoryQueue :=
  if !s.hasWorker workerId then (.error (.notFound ("worker " ++ workerId)), s)
  else match s.jobs with
    | j :: rest => (.ok (some j), { s with jobs := rest })
    | [] => (.ok none, s)

/-- Takes a job back. -/
def pushJob (s : MemoryQueue) (jobId : String) : MemoryQueue :=
  { s with pushed := s.pushed ++ [jobId] }

/-- Records a finished build. -/
def finishBuild (s : MemoryQueue) (jobId : String) (status : BuildStatus) (failed : Bool) :
    MemoryQueue :=
  { s with finished := s.finished ++ [⟨jobId, status, failed⟩] }

/-- Takes build output: a failing call is refused as a broken connection, otherwise the
text is recorded and the answer says whether the build should stop. -/
def recordLog (s : MemoryQueue) (jobId text : String) (tags : Option LogTags) :
    Except ServerError Bool × MemoryQueue :=
  if s.failingLogCalls > 0 then
    (.error (.transport "connection reset"), { s with failingLogCalls := s.failingLogCalls - 1 })
  else (.ok s.stopBuilds, { s with logs := s.logs ++ [⟨jobId, text, tags⟩] })

/-- Plain build output. -/
def log (s : MemoryQueue) (jobId text : String) : Except ServerError Bool × MemoryQueue :=
  s.recordLog jobId text none

/-- Tagged build output; a server without the endpoint answers not found. -/
def logTagged (s : MemoryQueue) (jobId text : String) (tags : LogTags) :
    Except ServerError Bool × MemoryQueue :=
  let s := { s with taggedAttempts := s.taggedAttempts + 1 }
  if s.taggedUnsupported then (.error (.notFound "tagged-log"), s)
  else s.recordLog jobId text (some tags)

/-- A job's source archive, if the server has one. -/
def source? (s : MemoryQueue) (jobId : String) : Option (List UInt8) :=
  (s.sources.find? (·.1 == jobId)).map (·.2)

/-- Everything delivered, in order. -/
def logText (s : MemoryQueue) : String := String.join (s.logs.map (·.text))

end MemoryQueue

end BuildWorker
