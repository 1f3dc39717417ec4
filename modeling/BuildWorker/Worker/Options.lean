import BuildWorker.Config.Settings
/-!
# Job-loop options

How the job loop behaves: whether it hands jobs back instead of building them, stops
after one job, prints tracebacks, skips fetching sources, echoes build output; its
intervals and limits; the upload command; and where builds are staged.  Durations are
kept in milliseconds, so the loop can run on short intervals; options taken from the
settings are whole seconds.
-/

set_option autoImplicit false

namespace BuildWorker

/-- The job loop's options; durations in milliseconds. -/
structure WorkerOptions where
  pushBack : Bool := false
  runOnce : Bool := false
  showTraceback : Bool := false
  noFetch : Bool := false
  pollInterval : Nat
  timeout : Nat
  iotimeout : Nat
  logFlushInterval : Nat
  echo : Bool := true
  uploadCommand : Option String := none
  buildDir : String
  deriving DecidableEq, Repr

/-- The options the settings give. -/
def WorkerOptions.ofSettings (s : LoopSettings) : WorkerOptions where
  pollInterval := s.pollInterval * 1000
  timeout := s.timeout * 1000
  iotimeout := s.iotimeout * 1000
  logFlushInterval := s.logFlushInterval * 1000
  uploadCommand := s.uploadCommand
  buildDir := s.buildDir

open Json in
/-- The options as a value, durations in whole seconds. -/
def WorkerOptions.toValue (o : WorkerOptions) : Value :=
  let seconds (ms : Nat) := Value.number (.unsigned (ms / 1000))
  .object [("push_back", .bool o.pushBack), ("run_once", .bool o.runOnce),
    ("show_traceback", .bool o.showTraceback), ("no_fetch", .bool o.noFetch),
    ("poll_interval_s", seconds o.pollInterval), ("timeout_s", seconds o.timeout),
    ("iotimeout_s", seconds o.iotimeout), ("log_flush_interval_s", seconds o.logFlushInterval),
    ("echo", .bool o.echo), ("upload_command", optionalText o.uploadCommand),
    ("build_dir", .string o.buildDir)]

end BuildWorker
