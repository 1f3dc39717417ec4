import BuildWorker.Cli.Args
import BuildWorker.Cli.Report
import BuildWorker.Config.Read
import BuildWorker.Identity.Store
import BuildWorker.Server.Http
/-!
# One run of the command line

What the program prints and the status it ends with, for its arguments and its
environment.  The program runs on a host it knows only through its environment: it sees
no files, so the configuration is the defaults with the environment's overrides and the
state directory holds no workers, and its queue server cannot be reached, so every
request fails to connect.

In that world each command ends as follows:

* `register` checks the queue name, then fails to reach the server;
* `deregister` and `run` find no worker of the id they are given;
* `list` finds no workers.

An error report names what failed, with the chain of causes under it, on standard
error with status 1.
-/

set_option autoImplicit false

namespace BuildWorker.Cli

/-- What the program writes and its status. -/
structure CliOutput where
  out : String := ""
  err : String := ""
  status : Nat := 0
  deriving DecidableEq, Repr

/-- An error report on standard error, with status 1. -/
def failure (context : String) (causes : List String) : CliOutput :=
  { err := errorReport context causes, status := 1 }

/-- The client settings the configuration gives. -/
def clientOf (s : Settings) : Server.ClientSettings :=
  { url := s.server.url, token := s.server.token, timeoutSecs := s.server.timeout }

/-- Runs a store step on the host's empty state directory. -/
def onEmptyStore {α : Type} (m : StoreM α) : Except WorkerError α :=
  (m.run.run {}).1

/-- Runs a command with settings. -/
def runCommand (s : Settings) (cmd : CliCommand) : CliOutput :=
  let store : IdentityStore := ⟨s.workersDir⟩
  let client := clientOf s
  match cmd with
  | .list =>
      match onEmptyStore store.list with
      | .error e => failure "Failed to read worker identities" e.causes
      | .ok [] => { out := "No workers registered in " ++ s.workersDir ++ "\n" }
      | .ok identities =>
          let rows := identities.map fun i =>
            workerRow i (workerStatus i i.isLive ((i.pid.map ProcessId.render).getD "0"))
          { out := renderTable workerColumns rows ++ "\n" }
  | .register queueText _ _ _ =>
      match QueueName.parse queueText with
      | .error e => failure ("Invalid queue name '" ++ queueText ++ "'") e.causes
      | .ok queue =>
          match client.problem with
          | some e => failure "Failed to create API client" e.causes
          | none =>
              let e : WorkerError := .server (client.sendUnreachable (.registerWorker queue))
              failure "Failed to register worker" e.causes
  | .deregister workerId =>
      match onEmptyStore (store.load workerId) with
      | .error e => failure ("Unknown worker '" ++ workerId ++ "'") e.causes
      | .ok _ => failure ("Unknown worker '" ++ workerId ++ "'") []
  | .run request =>
      match client.problem with
      | some e => failure "Failed to create API client" e.causes
      | none =>
          match onEmptyStore (store.load request.workerId) with
          | .error e =>
              if request.clean then failure "Failed to clean worker" e.causes
              else failure ("Unknown worker '" ++ request.workerId ++ "'") e.causes
          | .ok _ => failure ("Unknown worker '" ++ request.workerId ++ "'") []

/-- The variables of the environment the program reads. -/
def environmentNames : List String :=
  ["HOME", "BUILDQ_CONFIG", "BUILDQ_API_URL", "BUILDQ_TOKEN", "BUILDQ_STATE_DIR"]

/-- The program, from its arguments and environment. -/
def respond (env : List (String × String)) (args : List String) : CliOutput :=
  match readCommandLine args with
  | .error stop =>
      if stop.toError then { err := stop.text, status := stop.status }
      else { out := stop.text, status := stop.status }
  | .ok inv =>
      match inv.command with
      | none => { out := "No command specified. Use --help for usage information.\n", status := 1 }
      | some cmd =>
          let home := env.lookup "HOME"
          if home.isNone && (env.lookup "BUILDQ_CONFIG").isNone then
            failure "Failed to load configuration" ConfigError.noHomeDir.causes
          else
            let ctx : LoadContext := { home := home.getD ".", env, find := fun _ => .absent }
            match Settings.load ctx with
            | .error e => failure "Failed to load configuration" e.causes
            | .ok settings => runCommand settings cmd

end BuildWorker.Cli
