/-!
# Errors

The failures the worker reports, as causes.  Three families nest: a failure of the
operating system (`SystemFailure`), a failure of the configuration (`ConfigError`), a
failure of the queue server (`ServerError`), and the worker's own (`WorkerError`),
which may carry one of the others.  Each has one function that words it, and the
worker's errors say whether they stop the worker (`WorkerError.isFatal`).
-/

namespace BuildWorker

/-- A process id, with the worker's own process apart: its number is not fixed, and it is
shown as `self`. -/
inductive ProcessId where
  | current
  | other (n : Nat)
  deriving DecidableEq, Repr, Inhabited

/-- The text of a process id. -/
def ProcessId.render : ProcessId → String
  | .current => "self"
  | .other n => toString n

/-- The processes besides the worker's own that exist when nothing else is known: the
init process alone. -/
def ProcessId.othersAtStart : List Nat := [1]

/-- Whether a process exists, given the numbers of the other processes that do: the
worker's own process always does. -/
def ProcessId.isAlive (others : List Nat) : ProcessId → Bool
  | .current => true
  | .other n => others.contains n

/-- What the operating system answered to a failed file or process request. -/
inductive SystemFailure where
  | notFound
  | isDirectory
  | notDirectory
  | alreadyExists
  | invalidUtf8
  | permissionDenied
  | networkUnreachable
  deriving DecidableEq, Repr, Inhabited

/-- The operating system's wording of a failure, with its error number. -/
def SystemFailure.message : SystemFailure → String
  | .notFound => "No such file or directory (os error 2)"
  | .isDirectory => "Is a directory (os error 21)"
  | .notDirectory => "Not a directory (os error 20)"
  | .alreadyExists => "File exists (os error 17)"
  | .invalidUtf8 => "stream did not contain valid UTF-8"
  | .permissionDenied => "Permission denied (os error 13)"
  | .networkUnreachable => "Network is unreachable (os error 101)"

/-- A configuration that cannot be used. -/
inductive ConfigError where
  | invalidQueueName (name : String)
  | read (path : String) (cause : SystemFailure)
  | parse (path : String) (detail : String)
  | noHomeDir
  deriving DecidableEq, Repr, Inhabited

/-- The wording of a configuration error. -/
def ConfigError.message : ConfigError → String
  | .invalidQueueName name => s!"invalid queue name '{name}': expected 'username/queue'"
  | .read path cause => s!"failed to read config file {path}: {cause.message}"
  | .parse path detail => s!"failed to parse config file {path}: {detail}"
  | .noHomeDir => "could not determine home directory"

/-- The name of a configuration error's kind. -/
def ConfigError.kind : ConfigError → String
  | .invalidQueueName _ => "InvalidQueueName"
  | .read .. => "Read"
  | .parse .. => "Parse"
  | .noHomeDir => "NoHomeDir"

/-- A failed request to the queue server. -/
inductive ServerError where
  | notFound (detail : String)
  | unauthorized (detail : String)
  | server (status : Nat) (detail : String)
  | transport (detail : String)
  | decode (detail : String)
  | write (path : String) (cause : SystemFailure)
  deriving DecidableEq, Repr, Inhabited

/-- The wording of a server error. -/
def ServerError.message : ServerError → String
  | .notFound d => s!"not found: {d}"
  | .unauthorized d => s!"unauthorized: {d}"
  | .server status d => s!"server error {status}: {d}"
  | .transport d => s!"transport error: {d}"
  | .decode d => s!"failed to decode response: {d}"
  | .write path cause => s!"failed to write {path}: {cause.message}"

/-- The name of a server error's kind. -/
def ServerError.kind : ServerError → String
  | .notFound _ => "NotFound"
  | .unauthorized _ => "Unauthorized"
  | .server .. => "Server"
  | .transport _ => "Transport"
  | .decode _ => "Decode"
  | .write .. => "Write"

/-- Whether the server says the addressed worker, job or endpoint does not exist. -/
def ServerError.isNotFound : ServerError → Bool
  | .notFound _ => true
  | _ => false

/-- A failure of the worker. -/
inductive WorkerError where
  | config (detail : String)
  | invalidConfig (cause : ConfigError)
  | server (cause : ServerError)
  | workerRemoved (worker : String)
  | alreadyRunning (worker : String) (pid : ProcessId)
  | identityLocked (worker : String)
  | staleIdentity (worker : String)
  | identityNotFound (worker : String)
  | spawn (command : String) (cause : SystemFailure)
  | commandFailed (command : String) (detail : String)
  | log (detail : String)
  | path (path : String) (cause : SystemFailure)
  | yaml (detail : String)
  deriving DecidableEq, Repr, Inhabited

/-- The wording of a worker error. -/
def WorkerError.message : WorkerError → String
  | .config d => s!"configuration error: {d}"
  | .invalidConfig e => e.message
  | .server e => s!"build queue API error: {e.message}"
  | .workerRemoved w => s!"worker {w} no longer exists on the server (was it removed?)"
  | .alreadyRunning w pid => s!"worker {w} is already running (pid {pid.render})"
  | .identityLocked w => s!"worker {w} is being started by another process"
  | .staleIdentity w =>
      s!"worker {w} is marked running but its process is gone; run with --clean first"
  | .identityNotFound w => s!"worker {w} not found"
  | .spawn cmd cause => s!"failed to spawn {cmd}: {cause.message}"
  | .commandFailed cmd d => s!"{cmd} failed: {d}"
  | .log d => s!"build log delivery failed: {d}"
  | .path p cause => s!"failed to access {p}: {cause.message}"
  | .yaml d => s!"YAML error: {d}"

/-- The name of a worker error's kind; a carried error adds its own after a dot. -/
def WorkerError.kind : WorkerError → String
  | .config _ => "Config"
  | .invalidConfig e => "InvalidConfig." ++ e.kind
  | .server e => "Api." ++ e.kind
  | .workerRemoved _ => "WorkerRemoved"
  | .alreadyRunning .. => "AlreadyRunning"
  | .identityLocked _ => "IdentityLocked"
  | .staleIdentity _ => "StaleIdentity"
  | .identityNotFound _ => "IdentityNotFound"
  | .spawn .. => "Spawn"
  | .commandFailed .. => "CommandFailed"
  | .log _ => "Log"
  | .path .. => "Path"
  | .yaml _ => "Yaml"

/-- Fatal errors stop the worker: bad configuration and every problem with the worker's
identity.  Everything else is confined to one job. -/
def WorkerError.isFatal : WorkerError → Bool
  | .config _ | .invalidConfig _ | .workerRemoved _ | .alreadyRunning .. | .identityLocked _
  | .staleIdentity _ | .identityNotFound _ => true
  | _ => false

/-- A configuration error and the errors under it, outermost first. -/
def ConfigError.causes (e : ConfigError) : List String :=
  match e with
  | .read _ cause => [e.message, cause.message]
  | .parse _ detail => [e.message, detail]
  | _ => [e.message]

/-- A server error and the errors under it, outermost first. -/
def ServerError.causes (e : ServerError) : List String :=
  match e with
  | .write _ cause => [e.message, cause.message]
  | _ => [e.message]

/-- A worker error and the errors under it, outermost first.  A configuration error is
carried without a wording of its own. -/
def WorkerError.causes (e : WorkerError) : List String :=
  match e with
  | .invalidConfig c => c.causes
  | .server c => e.message :: c.causes
  | .spawn _ cause | .path _ cause => [e.message, cause.message]
  | .yaml detail => [e.message, detail]
  | _ => [e.message]

end BuildWorker
