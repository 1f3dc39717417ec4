import BuildWorker.Log.Buffer
import BuildWorker.Server.Memory
/-!
# Delivering build logs

Output goes to the server in pieces, one per chunk, through the *transport* that all
of a worker's builds share.  The transport prefers the tagged endpoint, which carries
the chunk's section.  The first time the server answers that the tagged endpoint does
not exist, the transport falls back to plain output for good; once tagged output has
worked, the same answer means the job or worker is gone, and it is an error.

The transport works with any server through its two output endpoints
(`LogEndpoints`); the builds here use the server in memory.

A *build log* holds one job's buffer.  Flushing takes what is ready and sends it chunk
by chunk; the first failure puts that chunk and the rest back in front of the buffer
and ends the flush with a log error.  A server that says a job is gone, or asks for the
build to stop, sets the log's stop request.

Closing a log lets its background flusher run one last ordinary flush, whose failure
is only noted, and then flushes everything, unfinished characters included; the
result of that final flush is the result of closing.
-/

set_option autoImplicit false

namespace BuildWorker

/-- The shared transport: whether tagged output was given up, and whether it ever
worked. -/
structure LogTransport where
  taggedDisabled : Bool := false
  taggedSucceeded : Bool := false
  deriving DecidableEq, Repr

/-- Whether output still goes to the tagged endpoint. -/
def LogTransport.isTagged (t : LogTransport) : Bool := !t.taggedDisabled

/-- One job's log: its buffer, whether the build was asked to stop, and whether the
background flusher still runs. -/
structure BuildLog where
  jobId : String
  buffer : LogBuffer := {}
  stopRequested : Bool := false
  flusherRunning : Bool := true
  deriving DecidableEq, Repr

/-- What delivering a log acts on. -/
structure LogWorld where
  log : BuildLog
  transport : LogTransport
  server : MemoryQueue
  deriving Repr

/-- A server's two output endpoints, over whatever state the server keeps: each takes
the job and the text, the tagged one also the tags, and answers whether the build
should stop. -/
structure LogEndpoints (σ : Type) where
  tagged : σ → String → String → LogTags → Except ServerError Bool × σ
  plain : σ → String → String → Except ServerError Bool × σ

/-- The output endpoints of the server in memory. -/
def MemoryQueue.logEndpoints : LogEndpoints MemoryQueue where
  tagged := MemoryQueue.logTagged
  plain := MemoryQueue.log

/-- The tags of a piece of output: its section, when it has one. -/
def sectionTags : Option String → LogTags
  | some s => [("section", s)]
  | none => []

/-- Sends one piece of text with its section through a server's endpoints: tagged
while the transport is, plain after the tagged endpoint turned out missing.  The
answer says whether the server asks the build to stop. -/
def LogTransport.sendVia {σ : Type} (api : LogEndpoints σ) (t : LogTransport) (server : σ)
    (jobId text : String) (sectionName : Option String) :
    Except ServerError Bool × LogTransport × σ :=
  let plain (t : LogTransport) (server : σ) :=
    let (r, server) := api.plain server jobId text
    (r, t, server)
  if t.isTagged then
    match api.tagged server jobId text (sectionTags sectionName) with
    | (.ok stop, server) => (.ok stop, { t with taggedSucceeded := true }, server)
    | (.error (.notFound detail), server) =>
        if t.taggedSucceeded then (.error (.notFound detail), t, server)
        else plain { t with taggedDisabled := true } server
    | (.error e, server) => (.error e, t, server)
  else plain t server

/-- Sends one piece of text with its section to the server in memory. -/
def LogTransport.send (t : LogTransport) (server : MemoryQueue) (jobId text : String)
    (sectionName : Option String) : Except ServerError Bool × LogTransport × MemoryQueue :=
  t.sendVia MemoryQueue.logEndpoints server jobId text sectionName

/-- Sends chunks in order; the first failure requeues it with the rest. -/
def sendChunks : List Chunk → LogWorld → Except WorkerError Unit × LogWorld
  | [], w => (.ok (), w)
  | c :: rest, w =>
      let (r, t, server) :=
        w.transport.send w.server w.log.jobId (Text.decodeLossy c.data) c.sectionName
      let w := { w with transport := t, server := server }
      match r with
      | .ok stop =>
          sendChunks rest { w with log := { w.log with stopRequested := w.log.stopRequested || stop } }
      | .error e =>
          let log := { w.log with
            buffer := w.log.buffer.requeue (c :: rest),
            stopRequested := w.log.stopRequested || e.isNotFound }
          (.error (.log e.message), { w with log := log })

/-- Sends what is ready; `complete` sends unfinished characters too. -/
def LogWorld.flush (w : LogWorld) (complete : Bool) : Except WorkerError Unit × LogWorld :=
  let (ready, buffer) := w.log.buffer.take complete
  sendChunks ready { w with log := { w.log with buffer := buffer } }

/-- Adds output to the log. -/
def LogWorld.write (w : LogWorld) (data : List UInt8) : LogWorld :=
  if data.isEmpty then w
  else { w with log := { w.log with buffer := w.log.buffer.append data } }

/-- Closes the log: the flusher's last ordinary flush, then a complete one. -/
def LogWorld.close (w : LogWorld) : Except WorkerError Unit × LogWorld :=
  let w :=
    if w.log.flusherRunning then
      let w := (w.flush false).2
      { w with log := { w.log with flusherRunning := false } }
    else w
  w.flush true

/-- Asks the build to stop. -/
def LogWorld.requestStop (w : LogWorld) : LogWorld :=
  { w with log := { w.log with stopRequested := true } }

end BuildWorker
