/-!
# Why a build stopped

A supervised build ends on its own, or is stopped: by the total time limit, by the
limit on silence, by a request through its log, or because the worker shuts down.  A
stopped build gets one diagnostic line in its log; the limits in it are whole seconds,
rounded down.
-/

namespace BuildWorker

/-- Time limits of one build, in milliseconds. -/
structure Limits where
  /-- Longest total run time. -/
  timeoutMs : Nat
  /-- Longest time without any output. -/
  idleMs : Nat
  deriving DecidableEq, Repr, Inhabited

/-- Why a supervised command stopped. -/
inductive Termination where
  /-- It exited on its own. -/
  | exited
  /-- The total time limit passed. -/
  | timeout
  /-- It was silent for longer than the idle limit. -/
  | idleTimeout
  /-- A stop was requested through its output sink. -/
  | userRequested
  /-- The worker is shutting down. -/
  | shutdown
  deriving DecidableEq, Repr, Inhabited

/-- The wire name of a termination. -/
def Termination.name : Termination → String
  | .exited => "exited"
  | .timeout => "timeout"
  | .idleTimeout => "io_timeout"
  | .userRequested => "user_requested"
  | .shutdown => "shutdown"

/-- The diagnostic written to the log of a stopped build; none for a build that exited. -/
def Termination.message (limits : Limits) : Termination → Option String
  | .exited => none
  | .timeout =>
      some s!"\nTimeout: build exceeded maximum build time of {limits.timeoutMs / 1000} seconds\n"
  | .idleTimeout =>
      some (s!"\nTimeout: No output from program for {limits.idleMs / 1000} seconds\n" ++
        "Timeout: If you require a longer timeout you may set the 'iotimeout' variable " ++
        "in your build instructions\n")
  | .userRequested => some "\nUser requested: terminating build\n"
  | .shutdown => some "\nWorker shutting down: terminating build\n"

end BuildWorker
