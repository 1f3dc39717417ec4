import BuildWorker.Job.Basic
import BuildWorker.Log.Marker
/-!
# The build journal

Every build the host runs leaves lines in an append-only journal: one when it starts,
and one when it finishes or when it could not be run at all.  A line holds a time
stamp, the event, and the job's id and name.

The journal here keeps its entries without time stamps; `JournalEntry.line` is the
text that follows the stamp.
-/

set_option autoImplicit false

namespace BuildWorker

/-- What happened to a build. -/
inductive JournalEvent where
  | starting
  | finished
  /-- The build could not be run; it is reported as an error. -/
  | errored
  deriving DecidableEq, Repr

/-- The word the journal writes for an event. -/
def JournalEvent.name : JournalEvent → String
  | .starting => "starting"
  | .finished => "finished"
  | .errored => "errored"

/-- One journal entry: an event of a job. -/
structure JournalEntry where
  event : JournalEvent
  jobId : String
  jobName : String
  deriving DecidableEq, Repr

/-- The entry's text after its time stamp. -/
def JournalEntry.line (e : JournalEntry) : String :=
  e.event.name ++ " job_id=" ++ e.jobId ++ " job_name=" ++ e.jobName

/-- The entry of an event of a job. -/
def JournalEntry.ofJob (event : JournalEvent) (job : Job) : JournalEntry :=
  ⟨event, job.id, job.name⟩

/-- The journal's lines with the first word, the time stamp, taken off each.  An id or
name with a line feed in it continues its entry on a line of its own, and that line too
loses its first word. -/
def journalLines (entries : List JournalEntry) : List String :=
  let text := String.join (entries.map fun e => "- " ++ e.line ++ "\n")
  (textLines text).map fun l =>
    match l.splitOn " " with
    | _ :: rest@(_ :: _) => " ".intercalate rest
    | _ => l

end BuildWorker
