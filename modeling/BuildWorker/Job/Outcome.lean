/-!
# Build outcomes

A finished build is reported as one of three statuses, read off the script's exit
code: 0 is a success, 12 a build failure, and every other code (11 for a broken
environment, signals, forced stops) an error.  A build that never produced an exit
code is an error with code -1.
-/

namespace BuildWorker

/-- Exit code of a script whose phases all succeeded. -/
def exitSuccess : Int := 0
/-- Exit code of a script whose source staging or install phase failed. -/
def exitError : Int := 11
/-- Exit code of a script whose test, before-script or script phase failed. -/
def exitFailure : Int := 12

/-- The status reported for a finished build. -/
inductive BuildStatus where
  | success
  | failure
  | error
  deriving DecidableEq, Repr, Inhabited

/-- The status's wire name. -/
def BuildStatus.name : BuildStatus → String
  | .success => "success"
  | .failure => "failure"
  | .error => "error"

/-- The result of one build. -/
structure Outcome where
  exitCode : Int
  status : BuildStatus
  failed : Bool
  deriving DecidableEq, Repr, Inhabited

/-- Classifies a script exit code; only a success is not failed. -/
def Outcome.ofExitCode (code : Int) : Outcome :=
  let status : BuildStatus :=
    if code = exitSuccess then .success else if code = exitFailure then .failure else .error
  { exitCode := code, status, failed := status != .success }

/-- The outcome of a build attempt that raised before producing an exit code. -/
def Outcome.errored : Outcome :=
  { exitCode := -1, status := .error, failed := true }

/-- The outcome as the server receives it: exit code, status, failed, in that order. -/
def Outcome.serialized (o : Outcome) : String :=
  "\x7b\"exit_code\":" ++ toString o.exitCode ++ ",\"status\":\"" ++ o.status.name ++
    "\",\"failed\":" ++ (if o.failed then "true" else "false") ++ "\x7d"

end BuildWorker
