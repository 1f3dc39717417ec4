import BuildWorker.Files.Path
import BuildWorker.Json.Value
/-!
# Settings

The worker's settings come in four groups: how to reach the queue server, the job
loop's limits and directories, the container runtime, and the dropped-privilege
runtime.  Every setting has a default, so a settings file names only what differs.
The defaults that are directories depend on the home directory.

The worker keeps identities in `workers` and its journal in `journal.log`, both under
the state directory.
-/

set_option autoImplicit false

namespace BuildWorker

/-- How to reach the queue server. -/
structure ServerSettings where
  url : String := "http://localhost:8080/api"
  token : Option String := none
  /-- Request timeout in seconds. -/
  timeout : Nat := 30
  deriving DecidableEq, Repr

/-- The job loop: directories, intervals and limits in seconds. -/
structure LoopSettings where
  stateDir : String
  buildDir : String
  pollInterval : Nat := 10
  timeout : Nat := 3600
  iotimeout : Nat := 60
  logFlushInterval : Nat := 3
  uploadCommand : Option String := none
  deriving DecidableEq, Repr

/-- The container runtime. -/
structure ContainerSettings where
  image : String := "buildq/worker:latest"
  allowUserImages : Bool := false
  deriving DecidableEq, Repr

/-- The dropped-privilege runtime. -/
structure UserSettings where
  buildUser : String := "buildq"
  skeletonDir : String := "/etc/worker-skel"
  installPrefix : String := "/opt/buildq"
  deriving DecidableEq, Repr

/-- All settings. -/
structure Settings where
  server : ServerSettings := {}
  loop : LoopSettings
  container : ContainerSettings := {}
  user : UserSettings := {}
  deriving DecidableEq, Repr

/-- The job-loop defaults: state under `~/.buildq`, builds under its `builds`. -/
def LoopSettings.defaults (home : String) : LoopSettings :=
  let base := joinPath home ".buildq"
  { stateDir := base, buildDir := joinPath base "builds" }

/-- The default settings. -/
def Settings.defaults (home : String) : Settings := { loop := LoopSettings.defaults home }

/-- Where worker identities are kept. -/
def Settings.workersDir (s : Settings) : String := joinPath s.loop.stateDir "workers"

/-- Where the journal is kept. -/
def Settings.journalPath (s : Settings) : String := joinPath s.loop.stateDir "journal.log"

/-- The directory settings with a leading `~` expanded. -/
def Settings.expandPaths (home : String) (s : Settings) : Settings :=
  { s with
    loop := { s.loop with
      stateDir := expandHome home s.loop.stateDir,
      buildDir := expandHome home s.loop.buildDir },
    user := { s.user with
      skeletonDir := expandHome home s.user.skeletonDir,
      installPrefix := expandHome home s.user.installPrefix } }

open Json in
/-- An optional string as a value. -/
def optionalText : Option String → Value
  | some s => .string s
  | none => .null

open Json in
/-- The settings as a value, keyed by their file names. -/
def Settings.toValue (s : Settings) : Value :=
  let count (n : Nat) := Value.number (.unsigned n)
  .object [
    ("api", .object [("url", .string s.server.url), ("token", optionalText s.server.token),
      ("timeout", count s.server.timeout)]),
    ("worker", .object [("state_dir", .string s.loop.stateDir),
      ("build_dir", .string s.loop.buildDir), ("poll_interval", count s.loop.pollInterval),
      ("timeout", count s.loop.timeout), ("iotimeout", count s.loop.iotimeout),
      ("log_flush_interval", count s.loop.logFlushInterval),
      ("upload_command", optionalText s.loop.uploadCommand)]),
    ("docker", .object [("image", .string s.container.image),
      ("allow_user_images", .bool s.container.allowUserImages)]),
    ("su", .object [("build_user", .string s.user.buildUser),
      ("skeleton_dir", .string s.user.skeletonDir),
      ("install_prefix", .string s.user.installPrefix)])]

end BuildWorker
