import BuildWorker.Worker.Options
import BuildWorker.Worker.Journal
import BuildWorker.Identity.Basic
import BuildWorker.Log.Delivery
import BuildWorker.Run.Supervise
import BuildWorker.Script.Generate
/-!
# Building one job

A build runs in the working directory `<build dir>/<worker>/<job>`, with both names made
safe as path components: every character but ASCII letters and digits, `-`, `_` and `.`
becomes `_`.  The operating system reads that path, so a name that is empty, `.` or `..`
names the directory above it or one further up; the log and the script's name show the
path as written.  Any earlier directory in that place is removed first; a build directory that cannot be prepared means the build cannot run at
all, and the job is reported as an error with no log.

Otherwise a build log is opened, and the build writes into it, in order:

* a line naming the job, its build number and the worker;
* a line naming the host, its platform, and the working directory;
* `Skipping source fetch` when sources are not fetched;
* everything the build script prints, under supervision;
* the exit code, after a blank line.

The source is the archive the server holds for the job, saved beside the script, or
else whatever the job itself names.  The script runs as `bash build_script.sh` in the
working directory, limited by the worker's total time limit and by the job's own limit
on silence when it sets one.  A shutdown that comes during the build stops it.  After
the build the log is closed, which delivers what is left, and the working directory is
removed.

Time is kept in microseconds since the worker started.
-/

set_option autoImplicit false

namespace BuildWorker

/-- A registered worker as its loop runs it. -/
structure Worker where
  identity : Identity
  options : WorkerOptions
  deriving Repr

/-- What the worker's loop acts on: the clock, the queue server, the log transport that
all builds share, the host's files, and the journal. -/
structure WorkerState where
  clock : Nat := 0
  server : MemoryQueue
  transport : LogTransport := {}
  files : FileTree
  journal : List JournalEntry := []
  deriving Repr

/-- A step of the worker. -/
abbrev WorkerM := StateM WorkerState

/-! ## The working directory -/

/-- A name made safe as one path component: ASCII letters and digits, `-`, `_` and `.`
stay, and every other character becomes `_`. -/
def pathComponent (id : String) : String :=
  id.map fun c =>
    if (c.isAlphanum && c.toNat < 128) || c == '-' || c == '_' || c == '.' then c else '_'

/-- The build directory, as names from the root. -/
def Worker.buildRoot (w : Worker) : List String :=
  resolvePath [scratchRoot] w.options.buildDir

/-- The names a job's working directory adds to the build directory: the worker's and the
job's, each made safe as one component. -/
def Worker.workNames (w : Worker) (job : Job) : List String :=
  [pathComponent w.identity.workerId, pathComponent job.id]

/-- Where a job is built, as the worker writes it. -/
def Worker.workPath (w : Worker) (job : Job) : String :=
  (w.workNames job).foldl joinPath (pathText w.buildRoot)

/-- Where a job is built, as the operating system finds it: the job's names read from the
build directory, so a `.` or `..` among them is applied. -/
def Worker.workDir (w : Worker) (job : Job) : List String :=
  resolveNames w.buildRoot (w.workNames job)

/-- Empties the place of a working directory and creates it.  Nothing there is fine; a
file on the way is not. -/
def prepareWorkDir (files : FileTree) (dir : List String) : Except SystemFailure FileTree :=
  let cleared : Except SystemFailure FileTree :=
    match files.get? dir with
    | some .dir => files.remove dir true false
    | some _ => .error .notDirectory
    | none =>
        match files.parentReady dir with
        | .error .notDirectory => .error .notDirectory
        | _ => .ok files
  cleared.bind fun t => t.makeDir dir true

/-! ## The build log -/

/-- The build log as the sink of a supervised build: it flushes what is ready at every
flush interval (in milliseconds), and the build stops once the log asks it to. -/
def LogWorld.sink (flushIntervalMs : Nat) : OutputSink LogWorld where
  write := LogWorld.write
  stopRequested w := w.log.stopRequested
  period := some (flushIntervalMs * 1000)
  onPeriod w := (w.flush false).2

/-- Writes text to the build log. -/
def LogWorld.writeText (w : LogWorld) (text : String) : LogWorld :=
  w.write (Text.encode text)

/-- The two lines that open a build log. -/
def Worker.header (w : Worker) (job : Job) (dir : String) : String :=
  "Building " ++ job.name ++ " (job " ++ job.id ++ ") build " ++ job.buildNumber ++
    " on worker " ++ w.identity.workerId ++ "\n" ++
  "Host " ++ w.identity.hostname ++ " (" ++ w.identity.platform ++ "), direct execution in " ++
    dir ++ "\n"

/-- The limits of a job's build: the worker's total time, and the job's own limit on
silence (in seconds) before the worker's. -/
def Worker.limits (w : Worker) (job : Job) : Limits :=
  { timeoutMs := w.options.timeout,
    idleMs := (job.ioTimeout.map (·.toNat * 1000)).getD w.options.iotimeout }

/-! ## One build -/

/-- Stages the source: nothing when fetching is off, the server's archive when it has
one, else what the job names.  Gives the staging, the log and the files. -/
def Worker.stageSource (w : Worker) (job : Job) (dir : List String) (log : LogWorld)
    (files : FileTree) : Staging × LogWorld × FileTree :=
  if w.options.noFetch then (.noSource, log.writeText "Skipping source fetch\n", files)
  else
    match log.server.source? job.id with
    | some bytes => (.tarball, log, ((files.write (dir ++ [sourceTarball]) bytes false).toOption.getD files))
    | none => (Staging.forJob job, log, files)

/-- Runs a job's build script under supervision into its log, with a shutdown at
`shutdownAt` if one is due.  Gives the exit code, or why the build could not run. -/
def Worker.execute (w : Worker) (job : Job) (shutdownAt : Option Nat) :
    WorkerM (Except WorkerError Nat) := do
  let s ← get
  let dir := w.workDir job
  match prepareWorkDir s.files dir with
  | .error e => pure (.error (.path (w.workPath job) e))
  | .ok files =>
      let log : LogWorld := { log := { jobId := job.id }, transport := s.transport, server := s.server }
      let log := log.writeText (w.header job (w.workPath job))
      let (staging, log, files) := w.stageSource job dir log files
      let ctx : ScriptContext :=
        ⟨w.identity.queueName, w.identity.workerId, staging, w.options.uploadCommand⟩
      let script := generateScript job ctx
      let scriptPath := dir ++ [scriptName]
      let scriptShown := joinPath (w.workPath job) scriptName
      let files := (files.write scriptPath (Text.encode script) false).toOption.getD files
      let limits := w.limits job
      let cancelAt := shutdownAt.map (· - s.clock)
      let horizon := match cancelAt with
        | some t => min t (limits.timeoutMs * 1000)
        | none => limits.timeoutMs * 1000
      let setup : Shell.RunSetup :=
        { script, scriptName := scriptShown, messagePrefix := scriptShown,
          cwd := dir, files, horizon, commandLine := false }
      let trace := setup.run
      let run := supervise (LogWorld.sink w.options.logFlushInterval) log limits cancelAt trace
      let log := run.sink.writeText ("\nExit code: " ++ toString run.exitCode ++ "\n")
      let log := log.close.2
      let files := (trace.files.remove dir true false).toOption.getD trace.files
      set { s with
        clock := s.clock + run.endTime
        server := log.server
        transport := log.transport
        files := files }
      pure (.ok run.exitCode)

/-- Adds an entry to the journal. -/
def WorkerState.record (s : WorkerState) (event : JournalEvent) (job : Job) : WorkerState :=
  { s with journal := s.journal ++ [JournalEntry.ofJob event job] }

/-- Builds a job: never fails, a build that cannot run is an error. -/
def Worker.build (w : Worker) (job : Job) (shutdownAt : Option Nat) : WorkerM Outcome := do
  modify (·.record .starting job)
  match ← w.execute job shutdownAt with
  | .ok code =>
      modify (·.record .finished job)
      pure (Outcome.ofExitCode code)
  | .error _ =>
      modify (·.record .errored job)
      pure Outcome.errored

end BuildWorker
