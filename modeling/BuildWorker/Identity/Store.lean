import BuildWorker.Identity.Yaml
import BuildWorker.Identity.Legacy
import BuildWorker.Server.Memory
import BuildWorker.Files.Path
/-!
# The identity store

Every registered worker has a YAML file `<id>.yaml` in the workers directory, and the
file says whether a process runs under that id.  A process marks the worker running
by taking its *running guard*: it locks `<id>.lock`, writes its process id there,
checks the identity is not already running, and saves it as running with its process
id.  Releasing the guard saves the identity as not running and unlocks.  A process
that dies leaves its identity marked running: *stale* until cleaned.  Whether a
recorded process still runs is read from the processes the state says exist
(`StoreState.alive`); this process always runs.

Locks belong to files, not names: a lock file that is removed takes its lock with it,
and a new file of the same name is unlocked.

Identities in the older one-file-per-worker format (see `Legacy`) are read too, when
no YAML file describes the worker.

Every step fails the way the file system does, naming the path it could not use; a
workers directory that is a file fails every step.
-/

set_option autoImplicit false

namespace BuildWorker

/-- The workers directory as the store finds it. -/
inductive WorkersDir where
  | missing
  /-- A file stands where the directory should be. -/
  | blocked
  | present (f : Folder)
  deriving Repr

/-- The world the store acts on: its directory, the lock files locked (by file node),
the queue server, and the processes besides the worker's own that exist. -/
structure StoreState where
  dir : WorkersDir := .missing
  locked : List Nat := []
  server : MemoryQueue := {}
  alive : List Nat := ProcessId.othersAtStart
  deriving Repr

/-- A store step. -/
abbrev StoreM := ExceptT WorkerError (StateM StoreState)

/-- Runs a store step, keeping the state on failure. -/
def runStoreStep {α : Type} (m : StoreM α) (s : StoreState) : Except WorkerError α × StoreState :=
  (m.run).run s

/-- A held running guard: the identity as it was marked running, and the lock file's
node. -/
structure RunningGuard where
  identity : Identity
  lockNode : Nat
  deriving DecidableEq, Repr

/-- The store: where its directory is, for messages. -/
structure IdentityStore where
  dirPath : String
  deriving Repr

namespace IdentityStore

/-- The YAML file of a worker. -/
def fileName (workerId : String) : String := workerId ++ ".yaml"

/-- The lock file of a worker. -/
def lockName (workerId : String) : String := workerId ++ ".lock"

/-- The name an identity file is first written under: its extension replaced by
`yaml.tmp`, or `.yaml.tmp` added to a name without extension. -/
def tempName (name : String) : String :=
  if hasExtension name then
    String.ofList (name.toList.reverse.dropWhile (· != '.')).reverse ++ "yaml.tmp"
  else name ++ ".yaml.tmp"

/-- The failure to use a name in the directory. -/
def failAt (store : IdentityStore) (name : String) (cause : SystemFailure) : WorkerError :=
  .path (joinPath store.dirPath name) cause

/-- The directory's folder, if it exists; a blocked one fails as not a directory. -/
def folder? (store : IdentityStore) : StoreM (Option Folder) := do
  match (← get).dir with
  | .missing => pure none
  | .blocked => throw (.path store.dirPath .notDirectory)
  | .present f => pure (some f)

/-- The directory's folder, created if missing. -/
def ensureFolder (store : IdentityStore) : StoreM Folder := do
  match (← get).dir with
  | .missing =>
      modify fun s => { s with dir := .present {} }
      pure {}
  | .blocked => throw (.path store.dirPath .alreadyExists)
  | .present f => pure f

/-- Replaces the directory's folder. -/
def setFolder (f : Folder) : StoreM Unit := modify fun s => { s with dir := .present f }

/-- Every identity: the YAML files that read as identities, then legacy files for
workers not yet seen, sorted by worker id.  A YAML file that cannot be read fails the
listing; one that is not an identity is skipped. -/
def list (store : IdentityStore) : StoreM (List Identity) := do
  match ← store.folder? with
  | none => pure []
  | some f =>
      let mut found : List Identity := []
      for name in f.names do
        if extensionOf? name == some "yaml" then
          match f.readText name with
          | .ok text =>
              match Identity.ofYamlText text with
              | some i => found := found ++ [i]
              | none => pure ()
          | .error e => throw (store.failAt name e)
      for i in Legacy.scan f do
        if !found.any (·.workerId == i.workerId) then found := found ++ [i]
      pure (found.mergeSort fun a b => decide (a.workerId ≤ b.workerId))

/-- Loads an identity: its YAML file, else its legacy file. -/
def load (store : IdentityStore) (workerId : String) : StoreM Identity := do
  let name := fileName workerId
  match (← get).dir with
  | .blocked => throw (store.failAt name .notDirectory)
  | .missing => throw (.identityNotFound workerId)
  | .present f =>
      let fromYaml ← match f.readText name with
        | .ok text => pure (Identity.ofYamlText text)
        | .error .notFound => pure none
        | .error e => throw (store.failAt name e)
      match fromYaml with
      | some i => pure i
      | none =>
          match Legacy.load f workerId with
          | some i => pure i
          | none => throw (.identityNotFound workerId)

/-- Saves an identity: written to a temporary name, then renamed over its file. -/
def save (store : IdentityStore) (i : Identity) : StoreM Unit := do
  let f ← store.ensureFolder
  let name := fileName i.workerId
  let temp := tempName name
  match f.writeText temp i.toYamlText with
  | .error e => throw (store.failAt temp e)
  | .ok f =>
      setFolder f
      match f.rename temp name with
      | .error e => throw (store.failAt name e)
      | .ok f => setFolder f

/-- Refuses a registration while another identity for the same queue, host and platform
is marked running. -/
def checkVacancy (store : IdentityStore) (queue : QueueName) (platform hostname : String) :
    StoreM Unit := do
  let others := (← get).alive
  for existing in ← store.list do
    if existing.running && existing.queueName == queue && existing.hostname == hostname &&
        existing.platform == platform then
      throw (existing.refusal others)

/-- Registers a new worker with the server and saves its identity.  Another identity
for the same queue, host and platform that is marked running refuses it, as does an
identity marked running under the id the server gives. -/
def register (store : IdentityStore) (queue : QueueName) (platform hostname dist : String) :
    StoreM Identity := do
  store.checkVacancy queue platform hostname
  let s ← get
  let (workerId, server) := s.server.registerWorker queue
  set { s with server := server }
  let identity : Identity :=
    { workerId, username := queue.user, queue := queue.queue, platform, hostname, dist }
  let previous ← tryCatch (some <$> store.load workerId) fun _ => pure none
  if let some p := previous then
    if p.running then throw (p.refusal (← get).alive)
  store.save identity
  pure identity

/-- Removes a file of the directory; a missing one is fine. -/
def removeIfPresent (store : IdentityStore) (name : String) : StoreM Unit := do
  match (← get).dir with
  | .missing => pure ()
  | .blocked => throw (store.failAt name .notDirectory)
  | .present f =>
      match f.remove name with
      | .ok f => setFolder f
      | .error .notFound => pure ()
      | .error e => throw (store.failAt name e)

/-- Removes a worker from the server (one it no longer knows is fine) and deletes its
YAML, lock and legacy files. -/
def deregister (store : IdentityStore) (i : Identity) : StoreM Unit := do
  modify fun s => { s with server := (s.server.removeWorker i.workerId).2 }
  for name in [fileName i.workerId, lockName i.workerId, i.workerId] do
    store.removeIfPresent name

/-- Deregisters a worker and tells its identity, unless another live process runs it. -/
def clean (store : IdentityStore) (workerId : String) : StoreM Identity := do
  let i ← store.load workerId
  if let some pid := i.pid then
    if i.running && pid != .current && pid.isAlive (← get).alive then
      throw (.alreadyRunning i.workerId pid)
  store.deregister i
  pure i

/-- The process id written in a lock file, if the file holds one. -/
def lockHolder (text : String) : Option ProcessId :=
  let t := Text.trim text
  if t == ProcessId.current.render then some .current
  else (parsePid t).map ProcessId.other

/-- Takes a worker's lock file for a process (this one unless another is named):
creates the file if needed; if another process holds its lock, fails naming the process
written there, or as locked when none is; else writes the process's id and holds the
lock. -/
def lock (store : IdentityStore) (workerId : String) (holder : ProcessId := .current) :
    StoreM Nat := do
  let f ← store.ensureFolder
  let name := lockName workerId
  let (node, f) ← match f.get? name with
    | some (.file node _) => pure (node, f)
    | some .dir => throw (store.failAt name .isDirectory)
    | none =>
        match f.write name [] with
        | .ok g => pure (g.nodeOf?  name |>.getD 0, g)
        | .error e => throw (store.failAt name e)
  setFolder f
  if (← get).locked.contains node then
    let recorded := match f.readText name with
      | .ok text => lockHolder text
      | .error _ => none
    throw (match recorded with
      | some pid => .alreadyRunning workerId pid
      | none => .identityLocked workerId)
  match f.writeText name (holder.render ++ "\n") with
  | .ok f => setFolder f
  | .error e => throw (store.failAt name e)
  modify fun s => { s with locked := node :: s.locked }
  pure node

/-- Lets go of the lock on a lock file's node. -/
def unlock (node : Nat) : StoreM Unit :=
  modify fun s => { s with locked := s.locked.erase node }

/-- A step taken while holding a lock, which is let go if the step fails. -/
def underLock {α : Type} (node : Nat) (m : StoreM α) : StoreM α :=
  tryCatch m fun e => do
    unlock node
    throw e

/-- Loads a worker's identity, refusing one already marked running. -/
def loadIdle (store : IdentityStore) (workerId : String) : StoreM Identity := do
  let i ← store.load workerId
  if i.running then throw (i.refusal (← get).alive)
  pure i

/-- Saves an identity as running under a process; the guard returned holds the lock. -/
def markRunning (store : IdentityStore) (i : Identity) (holder : ProcessId) (node : Nat) :
    StoreM RunningGuard := do
  let running := { i with running := true, pid := some holder }
  store.save running
  pure ⟨running, node⟩

/-- Marks a worker running under a process (this one unless another is named) for as
long as the returned guard is held: the worker's lock is taken before its identity is
read, and held until the guard is let go. -/
def acquire (store : IdentityStore) (workerId : String) (holder : ProcessId := .current) :
    StoreM RunningGuard := do
  let node ← store.lock workerId holder
  let i ← underLock node (store.loadIdle workerId)
  underLock node (store.markRunning i holder node)

/-- The first half of letting a guard go: if the worker's file still exists it is saved
as not running (a failure to save is ignored). -/
def clearRunning (store : IdentityStore) (g : RunningGuard) : StoreM Unit := do
  let present := match (← get).dir with
    | .present f => (f.get? (fileName g.identity.workerId)).isSome
    | _ => false
  if present then
    tryCatch (store.save { g.identity with running := false, pid := none }) fun _ => pure ()

/-- Releases a guard: its identity is saved as not running, and only then is the lock
let go. -/
def release (store : IdentityStore) (g : RunningGuard) : StoreM Unit := do
  store.clearRunning g
  unlock g.lockNode

end IdentityStore

end BuildWorker
