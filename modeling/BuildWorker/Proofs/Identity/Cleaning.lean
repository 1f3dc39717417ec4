import Mathlib
import BuildWorker.Proofs.Identity.Guards
import BuildWorker.Proofs.Identity.Registration
import BuildWorker.Proofs.Text.Utf8
/-!
# Cleaning a worker whose guard is held

Cleaning a worker loads its identity and deregisters it, unless the identity is marked
running under a live process.  Which processes live the store's state says
(`StoreState.alive`); this process always does.  The check makes one exception: a
process id equal to this process's own is not taken as a live process, since a recorded
process that is gone may have had its id reused by this one.  The exception also covers
the case where this process itself holds the worker's running guard.

While a thread holds a guard, the worker's file holds the guard's identity, running under
the thread's process (`GuardsHeld`), and cleaning reads that identity back as long as the
identity's YAML text reads as the identity (`load_stored`).  Then
`GuardRun.clean_refuses_other_holders`: while a live process holds the guard, cleaning
from any other process refuses, naming the holder and changing nothing, and cleaning from
the holder's own process forgets the worker on the server and removes its identity file,
though the guard still runs under it.  `clean_removes_worker_held_here` is such a run:
a thread of this process takes the guard of worker `b`, and this process then cleans `b`.

The removal of the identity file comes from deregistering's first step: removing a
file that is there empties its name (`removeIfPresent_file`), and the steps after it
only remove (`deregister_removes_file`).
-/

set_option autoImplicit false

namespace BuildWorker

namespace IdentityStore

variable (store : IdentityStore)

/-- A stored identity whose text reads back is what loading its worker gives. -/
theorem load_stored {s : StoreState} {i : Identity} (stored : s.Stores i)
    (reads : Identity.ofYamlText i.toYamlText = some i) :
    runStoreStep (store.load i.workerId) s = (.ok i, s) := by
  obtain ⟨node, hentry⟩ := stored
  have hdir := StoreState.dir_of_entryAt hentry
  have hread : s.folder.readText (fileName i.workerId) = .ok i.toYamlText := by
    unfold StoreState.entryAt at hentry
    simp only [Folder.readText, Folder.readBytes, hentry, textOfBytes?, bind, Except.bind,
      Text.fromUTF8?_encode]
  exact store.load_yaml hdir hread reads

/-- Removing a file that is there empties its name and keeps the rest. -/
theorem removeIfPresent_file {s : StoreState} {name : String} {node : Nat}
    {bytes : List UInt8} (h : s.entryAt name = some (.file node bytes)) :
    runStoreStep (store.removeIfPresent name) s =
      (.ok (), { s with dir := s.dir.keep (· != name) }) := by
  have hdir := StoreState.dir_of_entryAt h
  have hremove : s.folder.remove name = .ok (s.folder.keep (· != name)) := by
    unfold StoreState.entryAt at h
    simp [Folder.remove, h, Folder.keep]
  unfold removeIfPresent
  simp only [runStoreStep_bind, runStoreStep_get]
  rw [hdir]
  simp only [hremove, setFolder, runStoreStep_modify, WorkersDir.keep]

/-- **Deregistering forgets the worker and removes its identity file**, whatever the
removals after that one do. -/
theorem deregister_removes_file {s : StoreState} {i : Identity} {node : Nat}
    {bytes : List UInt8} (hfile : s.entryAt (fileName i.workerId) = some (.file node bytes)) :
    (runStoreStep (store.deregister i) s).2.server.hasWorker i.workerId = false ∧
      (runStoreStep (store.deregister i) s).2.entryAt (fileName i.workerId) = none := by
  set s₁ : StoreState := { s with server := (s.server.removeWorker i.workerId).2 }
  have hfile₁ : s₁.entryAt (fileName i.workerId) = some (.file node bytes) := hfile
  -- the lock file and the legacy file are removed by steps that only remove
  have rest : StoreM.RemovesOnly (fun _ => True) (do
      forIn [lockName i.workerId, i.workerId] PUnit.unit fun name (_ : PUnit) => do
        store.removeIfPresent name
        pure (ForInStep.yield PUnit.unit)
      pure ()) :=
    .of_bind (.of_forIn _ _ fun name _ _ => .of_bind ((store.removeIfPresent_removesOnly name).mono
      fun _ _ => trivial) fun _ => .of_pure _) fun _ => .of_pure _
  obtain ⟨p, -, after⟩ := rest { s₁ with dir := s₁.dir.keep (· != fileName i.workerId) }
  have run : (runStoreStep (store.deregister i) s).2 =
      (runStoreStep (do
        forIn [lockName i.workerId, i.workerId] PUnit.unit fun name (_ : PUnit) => do
          store.removeIfPresent name
          pure (ForInStep.yield PUnit.unit)
        pure ()) { s₁ with dir := s₁.dir.keep (· != fileName i.workerId) }).2 := by
    unfold deregister
    rw [runStoreStep_bind, runStoreStep_modify]
    dsimp only
    rw [List.forIn_cons, runStoreStep_bind, runStoreStep_bind, runStoreStep_bind,
      store.removeIfPresent_file hfile₁, runStoreStep_bind (forIn _ _ _)]
    rfl
  rw [run, after]
  constructor
  · simp [s₁, MemoryQueue.hasWorker_removeWorker]
  · rw [StoreState.entryAt_of_keep (s := { s₁ with dir := s₁.dir.keep (· != fileName i.workerId) })
      rfl, StoreState.entryAt_of_keep (s := s₁) rfl]
    simp

/-- **Cleaning a stored running identity.**  It refuses, with nothing changed, exactly
when the identity runs under a live process other than this one; otherwise it forgets
the worker on the server and removes its identity file. -/
theorem clean_stored_running {s : StoreState} {i : Identity} {holder : ProcessId}
    (stored : s.Stores i) (reads : Identity.ofYamlText i.toYamlText = some i)
    (running : i.running = true) (pid : i.pid = some holder) :
    (holder ≠ .current → holder.isAlive s.alive = true →
        runStoreStep (store.clean i.workerId) s = (.error (.alreadyRunning i.workerId holder), s)) ∧
      (holder = .current ∨ holder.isAlive s.alive = false →
        (runStoreStep (store.clean i.workerId) s).2.server.hasWorker i.workerId = false ∧
          (runStoreStep (store.clean i.workerId) s).2.entryAt (fileName i.workerId) = none) := by
  obtain ⟨node, hfile⟩ := id stored
  have removed := store.deregister_removes_file hfile
  have loaded := store.load_stored stored reads
  -- what cleaning does once the identity is loaded: check its process, then deregister
  have hclean : runStoreStep (store.clean i.workerId) s =
      if holder != .current && holder.isAlive s.alive then
        (.error (.alreadyRunning i.workerId holder), s)
      else runStoreStep (do store.deregister i; pure i) s := by
    unfold clean
    rw [runStoreStep_bind, loaded]
    simp only [pid, running, Bool.true_and, runStoreStep_bind, runStoreStep_get]
    split <;> simp_all
  constructor
  · intro hother halive
    rw [hclean, if_pos (by simp [hother, halive])]
  · intro hspared
    have hcheck : (holder != .current && holder.isAlive s.alive) = false := by
      rcases hspared with rfl | hdead <;> simp_all
    rw [hclean, if_neg (by simp [hcheck]), runStoreStep_bind]
    rcases hd : runStoreStep (store.deregister i) s with ⟨_ | _, s₂⟩ <;>
      rw [hd] at removed <;> exact removed

end IdentityStore

namespace GuardRun

variable {store : IdentityStore} {pid : Nat → ProcessId} {start : StoreState}
  {world : GuardWorld} {events : List GuardEvent}

/-- **Cleaning spares a held worker only from other processes.**  In every world a run
reaches, while a thread of a live process holds the guard of a worker whose identity
reads back, cleaning that worker from any other process refuses, naming the holder's
process and changing nothing; cleaning it from the holder's own process forgets the
worker on the server and removes its identity file. -/
theorem clean_refuses_other_holders (run : GuardRun store pid start world events)
    (named : GuardEvent.NamesRequested events) {t : Nat} {w : String} {g : RunningGuard}
    (holding : world.place t = .holding w g) (live : (pid t).isAlive world.store.alive = true)
    (reads : Identity.ofYamlText g.identity.toYamlText = some g.identity) :
    (pid t ≠ .current →
        runStoreStep (store.clean w) world.store =
          (.error (.alreadyRunning w (pid t)), world.store)) ∧
      (pid t = .current →
        (runStoreStep (store.clean w) world.store).2.server.hasWorker w = false ∧
          (runStoreStep (store.clean w) world.store).2.entryAt (IdentityStore.fileName w) =
            none) := by
  obtain ⟨rfl, files⟩ : g.identity.workerId = w ∧ GuardFiles world.store (pid t) g := by
    simpa [holding, PlaceFiles] using (run.guardsHeld named).files t
  have cleaned := store.clean_stored_running files.stored reads files.running files.pid
  exact ⟨fun other => cleaned.1 other live, fun here => cleaned.2 (.inl here)⟩

end GuardRun

/-- A step's run from its result alone, without evaluating the step again. -/
theorem runStoreStep_eq_of_fst {α : Type} {m : StoreM α} {s : StoreState}
    {r : Except WorkerError α} (h : (runStoreStep m s).1 = r) :
    runStoreStep m s = (r, (runStoreStep m s).2) := by
  rw [← h]

/-- A worker with short names, not running. -/
def shortWorker : Identity :=
  { workerId := "b", username := "u", queue := "q", platform := "p", hostname := "h", dist := "d" }

/-- A directory with the short worker's file only, and a server that knows the worker. -/
def shortWorkerState : StoreState where
  dir := .present
    { entries := [("b.yaml", .file 0 (Text.encode shortWorker.toYamlText))], nextNode := 1 }
  server := ({} : MemoryQueue).addWorker ⟨"u", "q"⟩ "b"

/-- The guard of the short worker held by a process. -/
def shortGuard (holder : ProcessId) : RunningGuard :=
  ⟨{ shortWorker with running := true, pid := some holder }, 1⟩

/-- The store once a process has taken the short worker's guard. -/
def shortHeld (holder : ProcessId) : StoreState :=
  (runStoreStep (workersStore.acquire "b" holder) shortWorkerState).2

/-- Thread 0 of a process takes the short worker's guard, in a run whose reads name the
worker asked for. -/
theorem shortGuard_run {holder : ProcessId}
    (granted : (runStoreStep (workersStore.acquire "b" holder) shortWorkerState).1 =
      .ok (shortGuard holder)) :
    ∃ world events, GuardRun workersStore (fun _ => holder) shortWorkerState world events ∧
      GuardEvent.NamesRequested events ∧ world.store = shortHeld holder ∧
      world.place 0 = .holding "b" (shortGuard holder) := by
  have idle : (GuardWorld.fresh shortWorkerState).place 0 = .idle := rfl
  obtain ⟨i, hi, run⟩ := GuardRun.acquire_steps
    (GuardRun.start : GuardRun workersStore (fun _ => holder) shortWorkerState _ []) idle
    (runStoreStep_eq_of_fst granted)
  refine ⟨_, _, run, ?_, rfl, by simp⟩
  intro t w i' read
  simp only [List.nil_append, List.mem_cons, GuardEvent.checked.injEq, reduceCtorEq,
    List.not_mem_nil, or_false, false_or] at read
  obtain ⟨-, rfl, rfl⟩ := read
  exact (congrArg Identity.workerId hi).symm

/-- The init process, a live process other than this one, takes the short worker's
guard, and cleaning the worker here is refused with nothing changed. -/
theorem clean_refuses_other_holders_init :
    ∃ world events, GuardRun workersStore (fun _ => .other 1) shortWorkerState world events ∧
      world.place 0 = .holding "b" (shortGuard (.other 1)) ∧
      runStoreStep (workersStore.clean "b") world.store =
        (.error (.alreadyRunning "b" (.other 1)), world.store) := by
  have facts : (runStoreStep (workersStore.acquire "b" (.other 1)) shortWorkerState).1 =
        .ok (shortGuard (.other 1)) ∧
      Identity.ofYamlText (shortGuard (.other 1)).identity.toYamlText =
        some (shortGuard (.other 1)).identity := by
    decide +kernel
  obtain ⟨world, events, run, named, hstore, holding⟩ := shortGuard_run facts.1
  have live : ProcessId.isAlive world.store.alive (.other 1) = true := by
    rw [hstore]
    decide +kernel
  exact ⟨world, events, run, holding,
    (run.clean_refuses_other_holders named holding live facts.2).1 (by decide)⟩

/-- **Cleaning removes a worker this process runs**: a thread of this process takes the
short worker's guard, and cleaning the worker from this process while the guard is held
forgets it on the server and removes its identity file. -/
theorem clean_removes_worker_held_here :
    ∃ world events, GuardRun workersStore (fun _ => .current) shortWorkerState world events ∧
      world.place 0 = .holding "b" (shortGuard .current) ∧
      world.store.server.hasWorker "b" = true ∧ world.store.entryAt "b.yaml" ≠ none ∧
      (runStoreStep (workersStore.clean "b") world.store).2.server.hasWorker "b" = false ∧
      (runStoreStep (workersStore.clean "b") world.store).2.entryAt "b.yaml" = none := by
  have facts : (runStoreStep (workersStore.acquire "b" .current) shortWorkerState).1 =
        .ok (shortGuard .current) ∧
      Identity.ofYamlText (shortGuard .current).identity.toYamlText =
        some (shortGuard .current).identity := by
    decide +kernel
  obtain ⟨world, events, run, named, hstore, holding⟩ := shortGuard_run facts.1
  obtain ⟨-, files⟩ : (shortGuard .current).identity.workerId = "b" ∧
      GuardFiles world.store .current (shortGuard .current) := by
    simpa [holding, PlaceFiles] using (run.guardsHeld named).files 0
  have cleaned := (workersStore.clean_stored_running files.stored facts.2 files.running
    files.pid).2 (.inl rfl)
  obtain ⟨node, stored⟩ := files.stored
  -- name the worker by its id, so that no check has to run the steps again
  have hb : (shortGuard .current).identity.workerId = "b" := rfl
  rw [hb] at cleaned stored
  have kept : world.store.server = shortWorkerState.server := by
    rw [hstore]
    exact workersStore.acquire_keepsServer "b" .current shortWorkerState
  refine ⟨world, events, run, holding, ?_, ?_, cleaned.1, cleaned.2⟩
  · rw [kept]
    decide
  · change world.store.entryAt (IdentityStore.fileName "b") ≠ none
    simp [stored]

end BuildWorker
