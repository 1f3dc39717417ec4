import Mathlib.Data.List.Nodup
import BuildWorker.Proofs.Identity.StoreSteps
/-!
# Running guards exclude each other

Threads, of one process or of several, share a workers directory and take and let go
of running guards.  Taking a guard is three store steps, with the worker's lock held
from the first: the lock is taken (`IdentityStore.lock`), the identity is read and
refused if it is marked running (`loadIdle`), and it is saved running under the thread's
process (`markRunning`); a step after the lock that fails lets the lock go.  Letting a
guard go is two: the identity is saved as not running (`clearRunning`), and only then is
the lock let go (`unlock`).  The steps of different threads interleave in any order
(`GuardStep`, `GuardRun`), each thread at its own place in taking or letting go of a
guard (`GuardPlace`).

The lock files make the guards of one worker exclusive, and the identity files follow
the guards (`GuardsTracked`):

* no two threads hold a guard for one worker;
* while a guard is held, its worker's file holds the guard's identity, marked running
  under the holder's process;
* once a guard is let go, until its worker's next guard is granted, the file holds that
  identity marked not running, under no process;
* the steps of an acquire that fails change no identity file.

This needs every identity read for a worker to name that worker
(`GuardEvent.NamesRequested`).  A guard carries the identity its worker's file holds, and
the identity is saved under the worker it names, so a file that names another worker
gives that other worker a second guard (`foreign_identity_file_doubles_guard`).

The proof is an invariant (`GuardsHeld`): no two threads hold the lock of one worker or
of one lock file, each lock held is taken on its worker's lock file, and the directory
holds what each thread's place says of it.  Each kind of step keeps it
(`GuardsHeld.step`), so every world a run reaches has it (`GuardRun.guardsHeld`).  A step
writes no identity file but that of the guard it grants or clears (`GuardStep.file_kept`),
and no guard for a worker is held from its release to its next grant, so what follows a
release is carried from the release onwards (`GuardRun.released_stored`).
-/

set_option autoImplicit false

namespace BuildWorker

open IdentityStore

/-- Where a thread is in taking or letting go of a running guard, with the worker it
asked for. -/
inductive GuardPlace where
  /-- Holding no lock. -/
  | idle
  /-- Holding the worker's lock, before reading its identity. -/
  | locked (workerId : String) (node : Nat)
  /-- Holding the worker's lock, with its identity read and found not running. -/
  | checked (workerId : String) (node : Nat) (i : Identity)
  /-- Holding a guard granted for the worker. -/
  | holding (workerId : String) (g : RunningGuard)
  /-- Letting the guard go: its identity saved as not running, the lock still held. -/
  | clearing (workerId : String) (g : RunningGuard)

namespace GuardPlace

/-- The lock a thread holds: the worker asked for, and the node of its lock file. -/
def lock? : GuardPlace → Option (String × Nat)
  | idle => none
  | locked w node => some (w, node)
  | checked w node _ => some (w, node)
  | holding w g => some (w, g.lockNode)
  | clearing w g => some (w, g.lockNode)

/-- The guard a thread holds, until it has let it go. -/
def guard? : GuardPlace → Option RunningGuard
  | holding _ g => some g
  | clearing _ g => some g
  | _ => none

end GuardPlace

/-- The threads sharing a workers directory: the store, and where each thread is. -/
structure GuardWorld where
  store : StoreState
  place : Nat → GuardPlace

/-- A directory where no thread has started. -/
def GuardWorld.fresh (s : StoreState) : GuardWorld := ⟨s, fun _ => .idle⟩

/-- What one step of a thread did. -/
inductive GuardEvent where
  | locked (thread : Nat) (workerId : String) (node : Nat)
  | checked (thread : Nat) (workerId : String) (i : Identity)
  | granted (thread : Nat) (workerId : String) (g : RunningGuard)
  /-- A step of an acquire failed (the lock, the read or the save), and the thread is
  idle again. -/
  | refused (thread : Nat) (workerId : String) (e : WorkerError)
  | cleared (thread : Nat) (workerId : String) (g : RunningGuard)
  | released (thread : Nat) (workerId : String) (g : RunningGuard)

namespace GuardEvent

/-- The worker whose identity file a step wrote: granting a guard and clearing one write
the file of the guard's worker, and no other step writes one. -/
def written : GuardEvent → Option String
  | granted _ _ g => some g.identity.workerId
  | cleared _ _ g => some g.identity.workerId
  | _ => none

/-- Every identity read for a worker names that worker. -/
def NamesRequested (events : List GuardEvent) : Prop :=
  ∀ t w i, GuardEvent.checked t w i ∈ events → i.workerId = w

end GuardEvent

/-- One step of one thread, each thread running under its process (`pid`). -/
inductive GuardStep (store : IdentityStore) (pid : Nat → ProcessId) :
    GuardWorld → GuardEvent → GuardWorld → Prop
  /-- An idle thread takes a worker's lock. -/
  | lock {world : GuardWorld} {t : Nat} {w : String} {node : Nat} {s' : StoreState} :
      world.place t = .idle →
      runStoreStep (store.lock w (pid t)) world.store = (.ok node, s') →
      GuardStep store pid world (.locked t w node)
        ⟨s', Function.update world.place t (.locked w node)⟩
  /-- An idle thread is refused a worker's lock. -/
  | lockRefused {world : GuardWorld} {t : Nat} {w : String} {e : WorkerError}
      {s' : StoreState} :
      world.place t = .idle →
      runStoreStep (store.lock w (pid t)) world.store = (.error e, s') →
      GuardStep store pid world (.refused t w e) ⟨s', world.place⟩
  /-- With the lock, the thread reads the identity and finds it not running. -/
  | check {world : GuardWorld} {t : Nat} {w : String} {node : Nat} {i : Identity}
      {s' : StoreState} :
      world.place t = .locked w node →
      runStoreStep (underLock node (store.loadIdle w)) world.store = (.ok i, s') →
      GuardStep store pid world (.checked t w i)
        ⟨s', Function.update world.place t (.checked w node i)⟩
  /-- The read fails, or finds the identity running: the lock is let go. -/
  | checkRefused {world : GuardWorld} {t : Nat} {w : String} {node : Nat} {e : WorkerError}
      {s' : StoreState} :
      world.place t = .locked w node →
      runStoreStep (underLock node (store.loadIdle w)) world.store = (.error e, s') →
      GuardStep store pid world (.refused t w e) ⟨s', Function.update world.place t .idle⟩
  /-- The identity is saved running under the thread's process: the guard is granted. -/
  | mark {world : GuardWorld} {t : Nat} {w : String} {node : Nat} {i : Identity}
      {g : RunningGuard} {s' : StoreState} :
      world.place t = .checked w node i →
      runStoreStep (underLock node (store.markRunning i (pid t) node)) world.store =
        (.ok g, s') →
      GuardStep store pid world (.granted t w g)
        ⟨s', Function.update world.place t (.holding w g)⟩
  /-- The save fails: the lock is let go. -/
  | markFailed {world : GuardWorld} {t : Nat} {w : String} {node : Nat} {i : Identity}
      {e : WorkerError} {s' : StoreState} :
      world.place t = .checked w node i →
      runStoreStep (underLock node (store.markRunning i (pid t) node)) world.store =
        (.error e, s') →
      GuardStep store pid world (.refused t w e) ⟨s', Function.update world.place t .idle⟩
  /-- A held guard's identity is saved as not running. -/
  | clear {world : GuardWorld} {t : Nat} {w : String} {g : RunningGuard} {s' : StoreState} :
      world.place t = .holding w g →
      runStoreStep (store.clearRunning g) world.store = (.ok (), s') →
      GuardStep store pid world (.cleared t w g)
        ⟨s', Function.update world.place t (.clearing w g)⟩
  /-- Then its lock is let go. -/
  | unlock {world : GuardWorld} {t : Nat} {w : String} {g : RunningGuard} {s' : StoreState} :
      world.place t = .clearing w g →
      runStoreStep (IdentityStore.unlock g.lockNode) world.store = (.ok (), s') →
      GuardStep store pid world (.released t w g) ⟨s', Function.update world.place t .idle⟩

/-- The runs of the threads from a directory where none has started: the world reached
and the steps taken, in order. -/
inductive GuardRun (store : IdentityStore) (pid : Nat → ProcessId) (start : StoreState) :
    GuardWorld → List GuardEvent → Prop
  | start : GuardRun store pid start (.fresh start) []
  | step {world world' : GuardWorld} {events : List GuardEvent} :
      GuardRun store pid start world events → (e : GuardEvent) → GuardStep store pid world e world' →
      GuardRun store pid start world' (events ++ [e])

/-! ## Names of different workers -/

section Names

variable {v w t : String}

theorem lockName_ne_fileName (v w : String) : lockName v ≠ fileName w :=
  (fileName_ne_lockName w v).symm

theorem tempName_ne_lockName (name w : String) : tempName name ≠ lockName w :=
  (lockName_ne_tempName w name).symm

theorem tempName_ne_fileName (name w : String) : tempName name ≠ fileName w :=
  (fileName_ne_tempName w name).symm

/-- The names a save of worker `v`'s identity writes are none of worker `w`'s. -/
theorem saved_names_apart (hvw : v ≠ w) {n : String}
    (hn : n = tempName (fileName v) ∨ n = fileName v) : n ≠ lockName w ∧ n ≠ fileName w := by
  rcases hn with rfl | rfl
  · exact ⟨tempName_ne_lockName _ _, tempName_ne_fileName _ _⟩
  · exact ⟨fileName_ne_lockName _ _, fun h => hvw (fileName_injective h)⟩

end Names

/-! ## What the directory says of each thread -/

/-- What the directory says of a held guard: its worker's file holds the guard's
identity, marked running under the holder, and the name that identity is first written
to is no subdirectory, so it can be saved again. -/
structure GuardFiles (s : StoreState) (holder : ProcessId) (g : RunningGuard) : Prop where
  stored : s.Stores g.identity
  running : g.identity.running = true
  pid : g.identity.pid = some holder
  tempFree : s.entryAt (tempName (fileName g.identity.workerId)) ≠ some .dir

/-- What the directory says of a thread at a place: a read identity names the worker
asked for; a held guard is stored running, one being let go is stored not running. -/
def PlaceFiles (s : StoreState) (holder : ProcessId) : GuardPlace → Prop
  | .idle => True
  | .locked _ _ => True
  | .checked w _ i => i.workerId = w
  | .holding w g => g.identity.workerId = w ∧ GuardFiles s holder g
  | .clearing w g =>
      g.identity.workerId = w ∧ s.Stores { g.identity with running := false, pid := none }

/-- A step that edits neither the file of the worker a thread holds the lock of, nor a
name that was a subdirectory, keeps what the directory says of the thread. -/
theorem PlaceFiles.frame {s s' : StoreState} {holder : ProcessId} {p : GuardPlace}
    {names : String → Prop} (h : PlaceFiles s holder p) (edits : s.EditsOnly names s')
    (file : ∀ l, p.lock? = some l → ¬ names (fileName l.1)) : PlaceFiles s' holder p := by
  cases p with
  | idle => trivial
  | locked => trivial
  | checked => exact h
  | holding w g =>
      obtain ⟨rfl, files⟩ := h
      have kept : ¬ names (fileName g.identity.workerId) := file _ rfl
      exact ⟨rfl, files.stored.frame edits kept, files.running, files.pid,
        mt (edits.noNewDir _) files.tempFree⟩
  | clearing w g =>
      obtain ⟨rfl, stored⟩ := h
      exact ⟨rfl, stored.frame edits (file _ rfl)⟩

/-- What holds of the threads in every world a run reaches: no two threads hold the
lock of one worker, or of one lock file; each lock held is taken, on its worker's lock
file; and the directory holds what each thread's place says of it. -/
structure GuardsHeld (pid : Nat → ProcessId) (world : GuardWorld) : Prop where
  apart : ∀ a b, a ≠ b → ∀ la lb, (world.place a).lock? = some la →
    (world.place b).lock? = some lb → la.1 ≠ lb.1 ∧ la.2 ≠ lb.2
  locks : ∀ a l, (world.place a).lock? = some l →
    l.2 ∈ world.store.locked ∧ ∃ bytes, world.store.entryAt (lockName l.1) = some (.file l.2 bytes)
  files : ∀ a, PlaceFiles world.store (pid a) (world.place a)

namespace GuardsHeld

variable {store : IdentityStore} {pid : Nat → ProcessId} {world : GuardWorld}

theorem fresh (s : StoreState) : GuardsHeld pid (.fresh s) where
  apart _ _ _ _ _ h := by simp [GuardWorld.fresh, GuardPlace.lock?] at h
  locks _ _ h := by simp [GuardWorld.fresh, GuardPlace.lock?] at h
  files _ := trivial

/-- The invariant after one thread moved to a new place, from what the other threads
keep and what holds of the new place. -/
theorem update (inv : GuardsHeld pid world) {t : Nat} {s' : StoreState} {p' : GuardPlace}
    (otherLocks : ∀ b, b ≠ t → ∀ l, (world.place b).lock? = some l →
      l.2 ∈ s'.locked ∧ s'.entryAt (lockName l.1) = world.store.entryAt (lockName l.1))
    (otherFiles : ∀ b, b ≠ t → PlaceFiles s' (pid b) (world.place b))
    (newLock : ∀ l, p'.lock? = some l →
      l.2 ∈ s'.locked ∧ ∃ bytes, s'.entryAt (lockName l.1) = some (.file l.2 bytes))
    (newApart : ∀ b, b ≠ t → ∀ l lb, p'.lock? = some l → (world.place b).lock? = some lb →
      l.1 ≠ lb.1 ∧ l.2 ≠ lb.2)
    (newFiles : PlaceFiles s' (pid t) p') :
    GuardsHeld pid ⟨s', Function.update world.place t p'⟩ where
  apart a b hab la lb ha hb := by
    dsimp only at ha hb
    by_cases hat : a = t
    · subst hat
      rw [Function.update_self] at ha
      rw [Function.update_of_ne (Ne.symm hab)] at hb
      exact newApart b (Ne.symm hab) la lb ha hb
    · rw [Function.update_of_ne hat] at ha
      by_cases hbt : b = t
      · subst hbt
        rw [Function.update_self] at hb
        obtain ⟨hw, hn⟩ := newApart a hat lb la hb ha
        exact ⟨Ne.symm hw, Ne.symm hn⟩
      · rw [Function.update_of_ne hbt] at hb
        exact inv.apart a b hab la lb ha hb
  locks a l ha := by
    dsimp only at ha ⊢
    by_cases hat : a = t
    · subst hat
      rw [Function.update_self] at ha
      exact newLock l ha
    · rw [Function.update_of_ne hat] at ha
      obtain ⟨taken, same⟩ := otherLocks a hat l ha
      exact ⟨taken, same ▸ (inv.locks a l ha).2⟩
  files a := by
    show PlaceFiles s' (pid a) (Function.update world.place t p' a)
    by_cases hat : a = t
    · subst hat
      simpa using newFiles
    · simpa [Function.update_of_ne hat] using otherFiles a hat

/-- The other threads keep what they hold across a change of the store that keeps their
locks taken and edits none of their lock or identity files. -/
theorem others_kept (inv : GuardsHeld pid world) {s' : StoreState} {names : String → Prop}
    (t : Nat) (edits : world.store.EditsOnly names s')
    (taken : ∀ b, b ≠ t → ∀ l, (world.place b).lock? = some l → l.2 ∈ s'.locked)
    (untouched : ∀ b, b ≠ t → ∀ l, (world.place b).lock? = some l →
      ¬ names (lockName l.1) ∧ ¬ names (fileName l.1)) :
    (∀ b, b ≠ t → ∀ l, (world.place b).lock? = some l →
      l.2 ∈ s'.locked ∧ s'.entryAt (lockName l.1) = world.store.entryAt (lockName l.1)) ∧
    (∀ b, b ≠ t → PlaceFiles s' (pid b) (world.place b)) :=
  ⟨fun b hb l hl => ⟨taken b hb l hl, edits.frame _ (untouched b hb l hl).1⟩,
    fun b hb => (inv.files b).frame edits fun l hl => (untouched b hb l hl).2⟩

/-- Letting go of a lock keeps the other threads' locks taken. -/
theorem taken_erase (inv : GuardsHeld pid world) {t : Nat} {node : Nat} {w : String}
    (ht : (world.place t).lock? = some (w, node)) :
    ∀ b, b ≠ t → ∀ l, (world.place b).lock? = some l → l.2 ∈ world.store.locked.erase node :=
  fun b hb l hl =>
    (List.mem_erase_of_ne (inv.apart b t hb l _ hl ht).2).2 (inv.locks b l hl).1

/-- A worker's lock is held by at most one thread: any other thread that holds a lock
holds one of another worker. -/
theorem others_apart (inv : GuardsHeld pid world) {t : Nat} {l : String × Nat}
    (ht : (world.place t).lock? = some l) :
    ∀ b, b ≠ t → ∀ lb, (world.place b).lock? = some lb → lb.1 ≠ l.1 :=
  fun b hb lb hlb => (inv.apart b t hb lb l hlb ht).1

/-- The names a save of a thread's own worker writes are no lock or identity file of
another thread's worker. -/
theorem saved_untouched (inv : GuardsHeld pid world) {t : Nat} {w : String} {node : Nat}
    (hlock : (world.place t).lock? = some (w, node)) :
    ∀ b, b ≠ t → ∀ l, (world.place b).lock? = some l →
      ¬ (lockName l.1 = tempName (fileName w) ∨ lockName l.1 = fileName w) ∧
        ¬ (fileName l.1 = tempName (fileName w) ∨ fileName l.1 = fileName w) := by
  intro b hb l hl
  have other : w ≠ l.1 := fun he => inv.others_apart hlock b hb l hl he.symm
  exact ⟨fun hn => (saved_names_apart other hn).1 rfl, fun hn => (saved_names_apart other hn).2 rfl⟩

/-- A thread that keeps its lock keeps it apart from the other threads' locks. -/
theorem kept_apart (inv : GuardsHeld pid world) {t : Nat} {p' : GuardPlace}
    (same : p'.lock? = (world.place t).lock?) :
    ∀ b, b ≠ t → ∀ l lb, p'.lock? = some l → (world.place b).lock? = some lb →
      l.1 ≠ lb.1 ∧ l.2 ≠ lb.2 :=
  fun b hb l lb hl hlb => inv.apart t b (Ne.symm hb) l lb (same ▸ hl) hlb

/-- A thread that keeps its lock across a step that keeps the locks taken and writes no
lock file keeps holding it. -/
theorem kept_lock (inv : GuardsHeld pid world) {t : Nat} {p' : GuardPlace} {s' : StoreState}
    {names : String → Prop} (same : p'.lock? = (world.place t).lock?)
    (edits : world.store.EditsOnly names s') (locked : s'.locked = world.store.locked)
    (noLock : ∀ v, ¬ names (lockName v)) :
    ∀ l, p'.lock? = some l →
      l.2 ∈ s'.locked ∧ ∃ bytes, s'.entryAt (lockName l.1) = some (.file l.2 bytes) := by
  intro l hl
  obtain ⟨taken, bytes, hentry⟩ := inv.locks t l (same ▸ hl)
  exact ⟨locked ▸ taken, bytes, (edits.frame _ (noLock _)).trans hentry⟩

/-- A thread that lets its lock go, after a step that wrote at most the names a save of
its worker writes, leaves the others as they were and is idle. -/
theorem letGo (inv : GuardsHeld pid world) {t : Nat} {w : String} {node : Nat}
    {s₁ : StoreState} (hlock : (world.place t).lock? = some (w, node))
    (edits : world.store.EditsOnly (fun n => n = tempName (fileName w) ∨ n = fileName w) s₁)
    (locked : s₁.locked = world.store.locked) :
    GuardsHeld pid ⟨{ s₁ with locked := s₁.locked.erase node }, Function.update world.place t .idle⟩ := by
  obtain ⟨otherLocks, otherFiles⟩ := inv.others_kept t (edits.with_locked _)
    (fun b hb l hl => locked ▸ inv.taken_erase hlock b hb l hl) (inv.saved_untouched hlock)
  exact inv.update otherLocks otherFiles (fun _ h => nomatch h) (fun _ _ _ _ h => nomatch h) trivial

/-- The idle place of a thread is no place at all. -/
theorem update_idle {t : Nat} (idle : world.place t = .idle) :
    Function.update world.place t .idle = world.place := by
  rw [← idle, Function.update_eq_self]

/-- **Every kind of step keeps the invariant**, as long as an identity read for a worker
names that worker. -/
theorem step (inv : GuardsHeld pid world) {e : GuardEvent} {world' : GuardWorld}
    (step : GuardStep store pid world e world')
    (named : ∀ t w i, e = .checked t w i → i.workerId = w) : GuardsHeld pid world' := by
  cases step with
  | @lock t w node s' idle h =>
      obtain ⟨edits, -, granted⟩ := store.lock_spec world.store w (pid t)
      rw [h] at edits granted
      obtain ⟨locked, fresh, lockFile, sameNode⟩ := granted node rfl
      -- no other thread holds this worker's lock: its lock file's node would be taken
      have otherWorker : ∀ b, b ≠ t → ∀ lb, (world.place b).lock? = some lb → lb.1 ≠ w := by
        rintro b - lb hlb rfl
        obtain ⟨taken, bytes, hentry⟩ := inv.locks b lb hlb
        exact fresh (sameNode _ _ hentry ▸ taken)
      obtain ⟨otherLocks, otherFiles⟩ := inv.others_kept t edits
        (fun b _ l hl => locked ▸ List.mem_cons_of_mem _ (inv.locks b l hl).1)
        (fun b hb l hl => ⟨fun hn => otherWorker b hb l hl (lockName_injective hn),
          fileName_ne_lockName _ _⟩)
      refine inv.update otherLocks otherFiles ?_ ?_ trivial
      · rintro l ⟨⟩
        exact ⟨locked ▸ List.mem_cons_self, _, lockFile⟩
      · rintro b hb l lb ⟨⟩ hlb
        exact ⟨(otherWorker b hb lb hlb).symm,
          fun hn => fresh (by rw [show node = lb.2 from hn]; exact (inv.locks b lb hlb).1)⟩
  | @lockRefused t v e s' idle h =>
      rw [← update_idle idle]
      by_cases held : ∃ b lb, (world.place b).lock? = some lb ∧ lb.1 = v
      · -- another thread holds the lock: nothing changes
        obtain ⟨b, lb, hlb, rfl⟩ := held
        obtain ⟨taken, bytes, hentry⟩ := inv.locks b lb hlb
        obtain ⟨e', refused⟩ := store.lock_held (pid t) hentry taken
        rw [refused, Prod.mk.injEq] at h
        obtain ⟨-, rfl⟩ := h
        exact inv.update (fun b _ l hl => ⟨(inv.locks b l hl).1, rfl⟩) (fun b _ => inv.files b)
          (fun _ h => nomatch h) (fun _ _ _ _ h => nomatch h) trivial
      · -- no thread holds it: only its lock file can change
        obtain ⟨edits, kept, -⟩ := store.lock_spec world.store v (pid t)
        rw [h] at edits kept
        obtain ⟨otherLocks, otherFiles⟩ := inv.others_kept t edits
          (fun b _ l hl => (kept rfl) ▸ (inv.locks b l hl).1)
          (fun b _ l hl => ⟨fun hn => held ⟨b, l, hl, (lockName_injective hn)⟩,
            fileName_ne_lockName _ _⟩)
        exact inv.update otherLocks otherFiles (fun _ h => nomatch h) (fun _ _ _ _ h => nomatch h)
          trivial
  | @check t w node i s' here h =>
      obtain ⟨kept, -⟩ := store.loadIdle_spec world.store w
      have hlock : (world.place t).lock? = some (w, node) := by rw [here]; rfl
      obtain rfl : s' = world.store := by rw [runStoreStep_underLock_ok h] at kept; exact kept
      have same : ∀ i, (GuardPlace.checked w node i).lock? = (world.place t).lock? :=
        fun _ => hlock.symm
      have unchanged : world.store.EditsOnly (fun _ => False) world.store := .refl
      exact inv.update (fun b _ l hl => ⟨(inv.locks b l hl).1, rfl⟩) (fun b _ => inv.files b)
        (inv.kept_lock (same _) unchanged rfl fun _ => id) (inv.kept_apart (same _))
        (named t w _ rfl)
  | @checkRefused t w node e s' here h =>
      obtain ⟨kept, -⟩ := store.loadIdle_spec world.store w
      have hlock : (world.place t).lock? = some (w, node) := by rw [here]; rfl
      obtain ⟨s₁, hl, rfl⟩ := runStoreStep_underLock_error h
      obtain rfl : s₁ = world.store := by rw [hl] at kept; exact kept
      exact inv.letGo hlock .refl rfl
  | @mark t w node i g s' here h =>
      have hlock : (world.place t).lock? = some (w, node) := by rw [here]; rfl
      have hname : i.workerId = w := by simpa [here, PlaceFiles] using inv.files t
      obtain ⟨locked, edits, granted, -⟩ := store.markRunning_spec world.store i (pid t) node
      rw [runStoreStep_underLock_ok h] at locked edits granted
      obtain ⟨rfl, stored, tempGone⟩ := granted _ rfl
      subst hname
      -- the save writes the worker's own names, which no other thread's lock covers
      obtain ⟨otherLocks, otherFiles⟩ := inv.others_kept t edits
        (fun b _ l hl => locked ▸ (inv.locks b l hl).1) (inv.saved_untouched hlock)
      have same : (GuardPlace.holding i.workerId
          ⟨{ i with running := true, pid := some (pid t) }, node⟩).lock? =
          (world.place t).lock? := hlock.symm
      exact inv.update otherLocks otherFiles
        (inv.kept_lock same edits locked fun _ hn =>
          hn.elim (lockName_ne_tempName _ _) (lockName_ne_fileName _ _))
        (inv.kept_apart same) ⟨rfl, stored, rfl, rfl, by simp [tempGone]⟩
  | @markFailed t w node i e s' here h =>
      have hlock : (world.place t).lock? = some (w, node) := by rw [here]; rfl
      have hname : i.workerId = w := by simpa [here, PlaceFiles] using inv.files t
      obtain ⟨locked, edits, -, -⟩ := store.markRunning_spec world.store i (pid t) node
      obtain ⟨s₁, hm, rfl⟩ := runStoreStep_underLock_error h
      rw [hm] at locked edits
      subst hname
      exact inv.letGo hlock edits locked
  | @clear t w g s' here h =>
      have hlock : (world.place t).lock? = some (w, g.lockNode) := by rw [here]; rfl
      obtain ⟨hname, files⟩ : g.identity.workerId = w ∧ GuardFiles world.store (pid t) g := by
        simpa [here, PlaceFiles] using inv.files t
      obtain ⟨-, locked, edits, cleared⟩ := store.clearRunning_spec world.store g
      rw [h] at locked edits cleared
      obtain ⟨node, hfile⟩ := files.stored
      subst hname
      -- the file is there and can be saved: it now holds the identity not running
      have stored := cleared node _ hfile files.tempFree
      obtain ⟨otherLocks, otherFiles⟩ := inv.others_kept t edits
        (fun b _ l hl => locked ▸ (inv.locks b l hl).1) (inv.saved_untouched hlock)
      have same : (GuardPlace.clearing g.identity.workerId g).lock? = (world.place t).lock? :=
        hlock.symm
      exact inv.update otherLocks otherFiles
        (inv.kept_lock same edits locked fun _ hn =>
          hn.elim (lockName_ne_tempName _ _) (lockName_ne_fileName _ _))
        (inv.kept_apart same) ⟨rfl, stored⟩
  | @unlock t w g s' here h =>
      have hlock : (world.place t).lock? = some (w, g.lockNode) := by rw [here]; rfl
      simp only [runStoreStep_unlock, Prod.mk.injEq] at h
      obtain ⟨-, rfl⟩ := h
      exact inv.letGo hlock .refl rfl

end GuardsHeld

namespace GuardStep

variable {store : IdentityStore} {pid : Nat → ProcessId} {world world' : GuardWorld}
  {e : GuardEvent}

/-- **A step writes no identity file but the one its event names**: taking or letting go
of a lock, reading an identity, and every step of an acquire that fails leave every
worker's file as it was; granting or clearing a guard writes only its worker's. -/
theorem file_kept (step : GuardStep store pid world e world') {v : String}
    (other : e.written ≠ some v) :
    world'.store.entryAt (fileName v) = world.store.entryAt (fileName v) := by
  cases step with
  | @lock t w node s' _ h =>
      obtain ⟨edits, -, -⟩ := store.lock_spec world.store w (pid t)
      rw [h] at edits
      exact edits.frame _ (fileName_ne_lockName _ _)
  | @lockRefused t w e s' _ h =>
      obtain ⟨edits, -, -⟩ := store.lock_spec world.store w (pid t)
      rw [h] at edits
      exact edits.frame _ (fileName_ne_lockName _ _)
  | @check t w node i s' _ h =>
      obtain ⟨kept, -⟩ := store.loadIdle_spec world.store w
      rw [runStoreStep_underLock_ok h] at kept
      rw [show s' = world.store from kept]
  | @checkRefused t w node e s' _ h =>
      obtain ⟨kept, -⟩ := store.loadIdle_spec world.store w
      obtain ⟨s₁, hl, rfl⟩ := runStoreStep_underLock_error h
      rw [hl] at kept
      rw [← show s₁ = world.store from kept]
      rfl
  | @mark t w node i g s' _ h =>
      obtain ⟨-, edits, granted, -⟩ := store.markRunning_spec world.store i (pid t) node
      rw [runStoreStep_underLock_ok h] at edits granted
      obtain ⟨rfl, -, -⟩ := granted _ rfl
      have hv : i.workerId ≠ v := fun hv => other (by simp [GuardEvent.written, hv])
      exact edits.frame _ fun hn => (saved_names_apart hv hn).2 rfl
  | @markFailed t w node i e s' _ h =>
      obtain ⟨-, edits, -, keptFile⟩ := store.markRunning_spec world.store i (pid t) node
      obtain ⟨s₁, hm, rfl⟩ := runStoreStep_underLock_error h
      rw [hm] at edits keptFile
      -- the save that failed wrote its temporary file at most
      exact (edits.of_kept (keptFile rfl)).frame _ (fileName_ne_tempName _ _)
  | @clear t w g s' _ h =>
      obtain ⟨-, -, edits, -⟩ := store.clearRunning_spec world.store g
      rw [h] at edits
      have hv : g.identity.workerId ≠ v := fun hv => other (by simp [GuardEvent.written, hv])
      exact edits.frame _ fun hn => (saved_names_apart hv hn).2 rfl
  | @unlock t w g s' _ h =>
      simp only [runStoreStep_unlock, Prod.mk.injEq] at h
      rw [← h.2]
      rfl

/-- A guard a thread holds after a step it held before, or the step granted it to the
thread. -/
theorem guard?_after (step : GuardStep store pid world e world') {a : Nat} {g : RunningGuard}
    (h : (world'.place a).guard? = some g) :
    (world.place a).guard? = some g ∨ ∃ w, e = .granted a w g ∧ world'.place a = .holding w g := by
  cases step with
  | @clear t w g' s' here _ =>
      by_cases hat : a = t
      · subst hat
        simp only [Function.update_self, GuardPlace.guard?] at h
        left
        rw [here, ← h]
        rfl
      · exact .inl (by simpa [Function.update_of_ne hat] using h)
  | @mark t w node i g' s' _ _ =>
      by_cases hat : a = t
      · subst hat
        simp only [Function.update_self, GuardPlace.guard?, Option.some.injEq] at h
        subst h
        exact .inr ⟨w, rfl, Function.update_self _ _ _⟩
      · exact .inl (by simpa [Function.update_of_ne hat] using h)
  | lockRefused => exact .inl h
  | @lock t w node s' _ _ | @check t w node i s' _ _ | @checkRefused t w node e s' _ _
  | @markFailed t w node i e s' _ _ | @unlock t w g' s' _ _ =>
      by_cases hat : a = t
      · subst hat
        simp [GuardPlace.guard?] at h
      · exact .inl (by simpa [Function.update_of_ne hat] using h)

/-- The file a step writes is that of a guard some thread holds after it. -/
theorem written_held (step : GuardStep store pid world e world') {v : String}
    (h : e.written = some v) : ∃ a g, (world'.place a).guard? = some g ∧ g.identity.workerId = v := by
  cases step with
  | @mark t w node i g s' _ _ =>
      exact ⟨t, g, by simp [GuardPlace.guard?], by simpa [GuardEvent.written] using h⟩
  | @clear t w g s' _ _ =>
      exact ⟨t, g, by simp [GuardPlace.guard?], by simpa [GuardEvent.written] using h⟩
  | _ => cases h

end GuardStep

namespace GuardsHeld

variable {pid : Nat → ProcessId} {world : GuardWorld}

/-- A thread holding a guard holds the lock of the guard's worker. -/
theorem guard_lock (inv : GuardsHeld pid world) {a : Nat} {g : RunningGuard}
    (h : (world.place a).guard? = some g) :
    (world.place a).lock? = some (g.identity.workerId, g.lockNode) := by
  have files := inv.files a
  revert files h
  cases world.place a with
  | holding w g' =>
      rintro ⟨⟩ ⟨rfl, -⟩
      rfl
  | clearing w g' =>
      rintro ⟨⟩ ⟨rfl, -⟩
      rfl
  | _ => rintro ⟨⟩

/-- **At most one guard per worker**: two threads holding guards hold them for different
workers. -/
theorem guards_apart (inv : GuardsHeld pid world) {a b : Nat} (hab : a ≠ b)
    {ga gb : RunningGuard} (ha : (world.place a).guard? = some ga)
    (hb : (world.place b).guard? = some gb) : ga.identity.workerId ≠ gb.identity.workerId :=
  (inv.apart a b hab _ _ (inv.guard_lock ha) (inv.guard_lock hb)).1

end GuardsHeld

/-- The identity file a step leaves as it was keeps the identity it holds. -/
theorem StoreState.Stores.of_file_kept {s s' : StoreState} {i : Identity} (h : s.Stores i)
    (kept : s'.entryAt (fileName i.workerId) = s.entryAt (fileName i.workerId)) :
    s'.Stores i := by
  unfold StoreState.Stores
  rw [kept]
  exact h

/-- What running guards promise of a world a run reached: no two threads hold guards for
one worker; while a thread holds a guard, its worker's file holds the guard's identity,
running under the thread's process; a guard let go left its identity stored as not
running, under no process, unless its worker was granted a guard since; and no step from
here but granting or clearing a guard writes an identity file, so an acquire that fails
changes none. -/
structure GuardsTracked (store : IdentityStore) (pid : Nat → ProcessId) (world : GuardWorld)
    (events : List GuardEvent) : Prop where
  exclusive : ∀ a b, a ≠ b → ∀ ga gb, (world.place a).guard? = some ga →
    (world.place b).guard? = some gb → ga.identity.workerId ≠ gb.identity.workerId
  running : ∀ a w g, world.place a = .holding w g →
    world.store.Stores g.identity ∧ g.identity.running = true ∧ g.identity.pid = some (pid a)
  released : ∀ pre t w g post, events = pre ++ .released t w g :: post →
    (∀ t' g', GuardEvent.granted t' w g' ∉ post) →
    world.store.Stores { g.identity with running := false, pid := none }
  refusals : ∀ e world', GuardStep store pid world e world' → e.written = none →
    ∀ v, world'.store.entryAt (fileName v) = world.store.entryAt (fileName v)

/-! ## Every run -/

namespace GuardRun

variable {store : IdentityStore} {pid : Nat → ProcessId} {start : StoreState}
  {world : GuardWorld} {events : List GuardEvent}

theorem namesRequested_of_append {ev : GuardEvent}
    (named : GuardEvent.NamesRequested (events ++ [ev])) : GuardEvent.NamesRequested events :=
  fun t w i hm => named t w i (List.mem_append_left _ hm)

/-- **Every world a run reaches keeps the guards' invariant.** -/
theorem guardsHeld (run : GuardRun store pid start world events)
    (named : GuardEvent.NamesRequested events) : GuardsHeld pid world := by
  induction run with
  | start => exact .fresh start
  | step _ _ step ih =>
      exact (ih (namesRequested_of_append named)).step step fun t w i he =>
        named t w i (by simp [he])

/-- Where an event stands in a list of events one step extended: it is the last one, or
it stood there before. -/
theorem split_snoc {events pre post : List GuardEvent} {e ev : GuardEvent}
    (h : events ++ [ev] = pre ++ e :: post) :
    (post = [] ∧ ev = e ∧ events = pre) ∨
      ∃ post', post = post' ++ [ev] ∧ events = pre ++ e :: post' := by
  rcases List.eq_nil_or_concat post with rfl | ⟨post', last, rfl⟩
  · obtain ⟨rfl, hev⟩ := List.append_inj' h rfl
    exact .inl ⟨rfl, by simpa using hev, rfl⟩
  · rw [List.concat_eq_append,
      show pre ++ e :: (post' ++ [last]) = (pre ++ e :: post') ++ [last] by simp] at h
    obtain ⟨rfl, hev⟩ := List.append_inj' h rfl
    exact .inr ⟨post', by simpa using hev.symm, rfl⟩

/-- **After a release**, until the worker's next guard is granted, its file holds the
released identity marked not running, under no process, and no thread holds a guard for
the worker. -/
theorem released_stored (run : GuardRun store pid start world events)
    (named : GuardEvent.NamesRequested events) :
    ∀ pre t w g post, events = pre ++ .released t w g :: post →
      (∀ t' g', GuardEvent.granted t' w g' ∉ post) →
      g.identity.workerId = w ∧
        world.store.Stores { g.identity with running := false, pid := none } ∧
        ∀ a g', (world.place a).guard? = some g' → g'.identity.workerId ≠ w := by
  induction run with
  | start => intro pre t w g post h; simp at h
  | @step world world' events run' e step ih =>
      intro pre t w g post hev fresh
      have inv := run'.guardsHeld (namesRequested_of_append named)
      have inv' := (GuardRun.step run' e step).guardsHeld named
      rcases split_snoc hev with ⟨-, rfl, -⟩ | ⟨post', rfl, hev'⟩
      · -- this step is the release: the thread let go of the lock it held on `w`
        cases step with
        | @unlock _ _ _ s' here h =>
            simp only [runStoreStep_unlock, Prod.mk.injEq] at h
            obtain ⟨-, rfl⟩ := h
            obtain ⟨rfl, stored⟩ : g.identity.workerId = w ∧
                world.store.Stores { g.identity with running := false, pid := none } := by
              simpa [here, PlaceFiles] using inv.files t
            refine ⟨rfl, stored, fun a g' ha => ?_⟩
            have hat : a ≠ t := by rintro rfl; simp [GuardPlace.guard?] at ha
            dsimp only at ha
            rw [Function.update_of_ne hat] at ha
            have hlock : (world.place t).lock? = some (g.identity.workerId, g.lockNode) := by
              rw [here]; rfl
            exact (inv.apart a t hat _ _ (inv.guard_lock ha) hlock).1
      · obtain ⟨hgw, stored, none⟩ :=
          ih (namesRequested_of_append named) pre t w g post' hev' fun t' g' hm =>
            fresh t' g' (List.mem_append_left _ hm)
        -- no guard for `w` after the step: a new one would have been granted since
        have none' : ∀ a g', (world'.place a).guard? = some g' → g'.identity.workerId ≠ w := by
          intro a g' ha
          rcases step.guard?_after ha with before | ⟨w', rfl, holding⟩
          · exact none a g' before
          · have hw : w' ≠ w := by rintro rfl; exact fresh a g' (by simp)
            obtain ⟨rfl, -⟩ : g'.identity.workerId = w' ∧ GuardFiles world'.store (pid a) g' := by
              simpa [holding, PlaceFiles] using inv'.files a
            exact hw
        refine ⟨hgw, stored.of_file_kept (step.file_kept fun hw => ?_), none'⟩
        obtain ⟨a, g', ha, hg'⟩ := step.written_held hw
        exact none' a g' ha (hg'.trans hgw)

/-- **Running guards exclude each other, and the identity files track them,** in every
world a run reaches in which each identity read for a worker names that worker. -/
theorem guards_tracked (run : GuardRun store pid start world events)
    (named : GuardEvent.NamesRequested events) : GuardsTracked store pid world events := by
  have inv := run.guardsHeld named
  refine ⟨fun a b hab ga gb => inv.guards_apart hab, fun a w g here => ?_,
    fun pre t w g post hev fresh => (run.released_stored named pre t w g post hev fresh).2.1,
    fun e world' step quiet v => step.file_kept (by simp [quiet])⟩
  obtain ⟨-, files⟩ : g.identity.workerId = w ∧ GuardFiles world.store (pid a) g := by
    simpa [here, PlaceFiles] using inv.files a
  exact ⟨files.stored, files.running, files.pid⟩

/-- **Acquiring a guard is its three steps run back to back**: a thread that calls
`acquire` and is granted a guard takes the lock, reads the identity and saves it running,
each a step of the run, and reaches the store `acquire` leaves. -/
theorem acquire_steps (run : GuardRun store pid start world events) {t : Nat} {w : String}
    {g : RunningGuard} {s' : StoreState} (idle : world.place t = .idle)
    (h : runStoreStep (store.acquire w (pid t)) world.store = (.ok g, s')) :
    ∃ i, g.identity = { i with running := true, pid := some (pid t) } ∧
      GuardRun store pid start ⟨s', Function.update world.place t (.holding w g)⟩
        (events ++ [.locked t w g.lockNode, .checked t w i, .granted t w g]) := by
  simp only [IdentityStore.acquire, runStoreStep_bind] at h
  rcases hl : runStoreStep (store.lock w (pid t)) world.store with ⟨_ | node, s₁⟩
  · simp [hl] at h
  simp only [hl] at h
  rcases hc : runStoreStep (underLock node (store.loadIdle w)) s₁ with ⟨_ | i, s₂⟩
  · simp [hc] at h
  simp only [hc] at h
  -- the save under the lock was granted, so the guard carries the lock's node
  obtain ⟨-, -, granted, -⟩ := store.markRunning_spec s₂ i (pid t) node
  have hm : (runStoreStep (store.markRunning i (pid t) node) s₂).1 = .ok g := by
    rw [runStoreStep_underLock_ok h]
  obtain ⟨rfl, -, -⟩ := granted g hm
  have r₁ := GuardRun.step run (.locked t w node) (.lock idle hl)
  have r₂ := GuardRun.step r₁ (.checked t w i) (.check (by simp) hc)
  have r₃ := GuardRun.step r₂ (.granted t w _) (.mark (by simp) h)
  refine ⟨i, rfl, ?_⟩
  simpa [Function.update_idem] using r₃

end GuardRun

/-! ## One worker, and a directory that names a worker twice -/

/-- A workers directory for the runs below. -/
def workersStore : IdentityStore := { dirPath := "/workers" }

/-- The identity of worker `b`, not running. -/
def workerB : Identity :=
  { workerId := "b", username := "alice", queue := "default", platform := "linux-64",
    hostname := "builder", dist := "ubuntu-22.04" }

/-- A directory with worker `b`'s file only. -/
def oneWorker : StoreState where
  dir := .present
    { entries := [("b.yaml", .file 0 (Text.encode workerB.toYamlText))], nextNode := 1 }

/-- The guard this process is granted on worker `b` of `oneWorker`. -/
def guardB : RunningGuard := ⟨{ workerB with running := true, pid := some .current }, 1⟩

/-- Thread 0 runs in this process, every other thread in process 7. -/
def twoProcesses (t : Nat) : ProcessId := if t = 0 then .current else .other 7

/-- Thread 0 takes worker `b`'s guard step by step, thread 1, of another process, is
refused the worker's lock meanwhile, and thread 0 lets the guard go. -/
theorem guards_tracked_one_worker :
    let events := [GuardEvent.locked 0 "b" 1, .checked 0 "b" workerB, .granted 0 "b" guardB,
      .refused 1 "b" (.alreadyRunning "b" .current), .cleared 0 "b" guardB, .released 0 "b" guardB]
    ∃ world, GuardRun workersStore twoProcesses oneWorker world events ∧
      GuardEvent.NamesRequested events ∧ GuardsTracked workersStore twoProcesses world events := by
  intro events
  have run : GuardRun workersStore twoProcesses oneWorker _ events :=
    .step (.step (.step (.step (.step (.step .start
      (.locked 0 "b" 1) (.lock rfl (Prod.ext (by decide +kernel) rfl)))
      (.checked 0 "b" workerB) (.check rfl (Prod.ext (by decide +kernel) rfl)))
      (.granted 0 "b" guardB) (.mark rfl (Prod.ext (by decide +kernel) rfl)))
      (.refused 1 "b" (.alreadyRunning "b" .current)) (.lockRefused rfl (Prod.ext (by decide +kernel) rfl)))
      (.cleared 0 "b" guardB) (.clear rfl (Prod.ext (by decide +kernel) rfl)))
      (.released 0 "b" guardB) (.unlock rfl (Prod.ext (by decide +kernel) rfl))
  have named : GuardEvent.NamesRequested events := by
    intro t w i read
    simp only [events, List.mem_cons, GuardEvent.checked.injEq, reduceCtorEq, List.not_mem_nil,
      or_false, false_or] at read
    obtain ⟨-, rfl, rfl⟩ := read
    rfl
  exact ⟨_, run, named, run.guards_tracked named⟩

/-- Two files that both hold worker `b`'s identity. -/
def twoFilesForB : StoreState where
  dir := .present
    { entries := [("a.yaml", .file 0 (Text.encode workerB.toYamlText)),
        ("b.yaml", .file 1 (Text.encode workerB.toYamlText))]
      nextNode := 2 }

/-- **A file that names another worker doubles that worker's guard**: in one process,
one thread takes worker `b`'s guard, and another, asking for worker `a`, whose file names
`b`, is granted a second guard for `b` while the first is held. -/
theorem foreign_identity_file_doubles_guard :
    ∃ world events, GuardRun workersStore (fun _ => .current) twoFilesForB world events ∧
      (world.place 0).guard?.map (·.identity.workerId) = some "b" ∧
      (world.place 1).guard?.map (·.identity.workerId) = some "b" := by
  have run : GuardRun workersStore (fun _ => .current) twoFilesForB _ _ :=
    .step (.step (.step (.step (.step (.step .start
      (.locked 0 "b" 2) (.lock rfl (Prod.ext (by decide +kernel) rfl)))
      (.checked 0 "b" workerB) (.check rfl (Prod.ext (by decide +kernel) rfl)))
      (.granted 0 "b" ⟨{ workerB with running := true, pid := some .current }, 2⟩)
        (.mark rfl (Prod.ext (by decide +kernel) rfl)))
      (.locked 1 "a" 4) (.lock rfl (Prod.ext (by decide +kernel) rfl)))
      (.checked 1 "a" workerB) (.check rfl (Prod.ext (by decide +kernel) rfl)))
      (.granted 1 "a" ⟨{ workerB with running := true, pid := some .current }, 4⟩)
        (.mark rfl (Prod.ext (by decide +kernel) rfl))
  exact ⟨_, _, run, rfl, rfl⟩

end BuildWorker
