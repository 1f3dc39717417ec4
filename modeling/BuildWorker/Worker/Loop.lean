import BuildWorker.Worker.Build
import BuildWorker.Identity.Store
/-!
# The job loop

A worker claims one job at a time from its queue and either hands it back untouched
or builds it and reports the outcome.  Between jobs it checks whether it was told to
shut down; with the queue empty it waits.  A claim takes the server's time to answer,
and a job claimed while the shutdown fell is handed back.  It stops when it is shut down, after one
job when it runs once, or with an error when the server no longer knows it.  The whole
loop runs under the worker's running guard: a worker that is already running is not
run again.

A shutdown is planned ahead: at a fixed time, or as soon as a number of jobs have been
finished or handed back.  Nothing else adds jobs to the queue while the loop runs, so
once the queue is empty the loop only waits for its shutdown, and a loop with no
shutdown to wait for never stops.

`WorkerRun` is the whole course of a run: a queue server with the worker registered on
it and the jobs waiting, and the loop run from there.
-/

set_option autoImplicit false

namespace BuildWorker

/-- When the worker is told to shut down; times in microseconds from its start. -/
structure ShutdownPlan where
  /-- At a fixed time. -/
  atTime : Option Nat := none
  /-- As soon as this many jobs have been finished or handed back. -/
  afterJobs : Option Nat := none
  deriving DecidableEq, Repr

/-- The earliest time of two, either of which may be missing. -/
def earliest : Option Nat → Option Nat → Option Nat
  | some a, some b => some (min a b)
  | some a, none => some a
  | none, b => b

/-- The time of the shutdown, as far as the run so far decides it: the fixed time, or
the time when the planned number of jobs was reached. -/
def ShutdownPlan.time (plan : ShutdownPlan) (drainedAt : Option Nat) : Option Nat :=
  earliest plan.atTime (if plan.afterJobs.isSome then drainedAt else none)

/-- The loop's own state: the worker's state and when the planned number of jobs was
reached. -/
structure LoopState where
  worker : WorkerState
  drainedAt : Option Nat := none
  deriving Repr

/-- A step of the loop. -/
abbrev LoopM := StateM LoopState

/-- The shutdown time so far. -/
def shutdownTime (plan : ShutdownPlan) : LoopM (Option Nat) := do
  let s ← get
  pure (plan.time s.drainedAt)

/-- Whether the worker has been told to shut down by now. -/
def isShutDown (plan : ShutdownPlan) : LoopM Bool := do
  let s ← get
  pure ((plan.time s.drainedAt).any (· ≤ s.worker.clock))

/-- Notes the time the planned number of jobs is reached. -/
def noteDrained (plan : ShutdownPlan) : LoopM Unit :=
  modify fun s =>
    match plan.afterJobs, s.drainedAt with
    | some n, none =>
        if s.worker.server.finished.length + s.worker.server.pushed.length ≥ n then
          { s with drainedAt := some s.worker.clock }
        else s
    | _, _ => s

/-- Runs a worker step inside the loop. -/
def liftWorker {α : Type} (m : WorkerM α) : LoopM α := do
  let s ← get
  let (a, w) := m.run s.worker
  set { s with worker := w }
  pure a

/-- The loop, with room for `fuel` more claims.  `none` means it never stops. -/
def Worker.loop (w : Worker) (plan : ShutdownPlan) :
    Nat → LoopM (Option (Except WorkerError Unit))
  | 0 => pure none
  | fuel + 1 => do
      if ← isShutDown plan then return some (.ok ())
      let s ← get
      let (claim, server) := s.worker.server.popJob w.identity.workerId
      -- the answer comes after the server's claim time, and a shutdown may fall in it
      set { s with worker :=
        { s.worker with server, clock := s.worker.clock + s.worker.server.claimTime } }
      match claim with
      | .error (.notFound detail) =>
          return some (.error (if w.options.showTraceback then .server (.notFound detail)
            else .workerRemoved w.identity.workerId))
      | .error _ | .ok none =>
          match ← shutdownTime plan with
          | some t =>
              modify fun s => { s with worker := { s.worker with clock := max s.worker.clock t } }
              w.loop plan fuel
          | none => return none
      | .ok (some job) =>
          if w.options.pushBack || (← isShutDown plan) then
            liftWorker (modify fun s => { s with server := s.server.pushJob job.id })
          else
            let outcome ← liftWorker (w.build job plan.atTime)
            liftWorker (modify fun s =>
              { s with server := s.server.finishBuild job.id outcome.status outcome.failed })
          noteDrained plan
          if w.options.runOnce then return some (.ok ())
          w.loop plan fuel

/-- The loop under the worker's running guard: the guard is taken first, and given
back however the loop ends.  The loop starts on the store's server with the host's
files; what it leaves is the loop's result, the store, and the journal. -/
def Worker.runGuarded (w : Worker) (store : IdentityStore) (plan : ShutdownPlan) (fuel : Nat)
    (files : FileTree) (st : StoreState) :
    Option (Except WorkerError Unit) × StoreState × List JournalEntry :=
  match runStoreStep (store.acquire w.identity.workerId) st with
  | (.error e, st) => (some (.error e), st, [])
  | (.ok guard, st) =>
      let start : LoopState := { worker := { server := st.server, files } }
      let (result, after) := (noteDrained plan *> w.loop plan fuel).run start
      let st := { st with server := after.worker.server }
      let st := (runStoreStep (store.release guard) st).2
      (result, st, after.worker.journal)

/-! ## A whole run -/

/-- How a run is set up: the queue and the worker's host, the jobs waiting and the
source archives the server holds, how the server takes build output, the worker's
options, and what happens around the loop. -/
structure WorkerRun where
  queue : QueueName
  hostname : String
  platform : String
  dist : String
  jobs : List Job
  sources : List (String × List UInt8) := []
  /-- Whether the server has the tagged-output endpoint. -/
  taggedOutput : Bool := true
  /-- Whether the server asks every build to stop. -/
  stopBuilds : Bool := false
  /-- How many output requests the server drops first. -/
  failingLogCalls : Nat := 0
  options : WorkerOptions
  /-- The server forgets the worker before the loop starts. -/
  removeWorker : Bool := false
  /-- Someone else holds the worker's running guard during the loop. -/
  guardHeld : Bool := false
  shutdown : ShutdownPlan := {}
  /-- A file stands where the build directory should be. -/
  buildDirBlocked : Bool := false
  /-- Where identities are kept. -/
  store : IdentityStore
  deriving Repr

/-- What a run left: how the loop ended (`none` if it never does), the server, the
journal, and whether the worker is still marked running afterwards. -/
structure RunReport where
  result : Option (Except WorkerError Unit)
  server : MemoryQueue
  journal : List JournalEntry
  runningAfter : Bool
  deriving Repr

/-- The host's files at the start: the scratch directory, and the blocking file when
asked. -/
def WorkerRun.files (r : WorkerRun) : FileTree :=
  let files := FileTree.standard [[scratchRoot]]
  if r.buildDirBlocked then
    (files.write (resolvePath [scratchRoot] r.options.buildDir) [] false).toOption.getD files
  else files

/-- The whole run. -/
def WorkerRun.run (r : WorkerRun) : RunReport :=
  let server : MemoryQueue :=
    { taggedUnsupported := !r.taggedOutput, stopBuilds := r.stopBuilds,
      failingLogCalls := r.failingLogCalls }
  let (registered, st) := runStoreStep (r.store.register r.queue r.platform r.hostname r.dist)
    { server }
  match registered with
  | .error e => ⟨some (.error e), st.server, [], false⟩
  | .ok identity =>
      let server := if r.removeWorker then (st.server.removeWorker identity.workerId).2 else st.server
      let server := { server with jobs := r.jobs, sources := r.sources }
      let st := { st with server }
      let (held, st) : Option RunningGuard × StoreState :=
        if r.guardHeld then
          match runStoreStep (r.store.acquire identity.workerId) st with
          | (.ok g, st) => (some g, st)
          | (.error _, st) => (none, st)
        else (none, st)
      let w : Worker := ⟨identity, r.options⟩
      let (result, st, journal) := w.runGuarded r.store r.shutdown (r.jobs.length + 2) r.files st
      let st := match held with
        | some guard => (runStoreStep (r.store.release guard) st).2
        | none => st
      let running := match runStoreStep (r.store.load identity.workerId) st with
        | (.ok i, _) => i.running
        | (.error _, _) => false
      ⟨result, st.server, journal, running⟩

end BuildWorker
