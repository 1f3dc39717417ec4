import Mathlib
import BuildWorker.Proofs.Identity.Listing
/-!
# Registering and removing workers

A worker owns three names of the workers directory: its YAML file `<w>.yaml`, its lock
file `<w>.lock` and its legacy file `<w>` (`IdentityStore.workerFiles`).  Deregistering
a worker forgets it on the server and removes those three files; cleaning loads the
worker first and deregisters the identity it finds.  Registering asks the server for a
new worker and saves its identity, after two refusals: one for a running identity of the
same queue, host and platform, before the server is asked, and one for a running
identity under the id the server gives, after.

* `Folder.keep` and `WorkersDir.keep`: the directory with only the entries whose names
  pass a test.  Removing files is keeping the others (`Folder.remove_ok`).
* `StoreM.RemovesOnly names m`: `m` leaves the locks and the server alone and keeps every
  entry whose name is not in `names`; removing a file (`removeIfPresent_removesOnly`) and
  loops of such steps (`StoreM.RemovesOnly.of_forIn`) are such steps.
* `IdentityStore.loading`: loading as a function of the directory (`load_run`), so that
  what loading finds after a removal is read off the directory.
* `IdentityStore.KeepsWorker store w s s'`: `s'` has the files of `w` that `s` has, loads
  `w` as `s` does, keeps the server's record of `w`, and lists the same identities of `w`.
* `IdentityStore.removal_keeps_other_workers`: deregistering `w` keeps every other
  worker whose names do not meet those of `w`, and so does cleaning `w` in a directory the
  store keeps.  `dotted_id_removes_other_identity`: the worker `worker-1.yaml` owns the
  legacy name that is the YAML file of `worker-1`, and deregistering it removes that file.
* `IdentityStore.checkVacancy_run`: the first refusal only reads, and passes exactly when
  no listed identity occupies the place.  `register_refused`, `register_running` and
  `register_saves` give the three paths of a registration, and `save_and_return` what
  its last step does.
* `IdentityStore.register_completes_or_keeps_files`: a registration that succeeds saves
  the new identity, not running, under the server's id, adds that id to the server and
  changes no other file; one that fails changes nothing, or leaves the server's new
  record and at most the temporary file.  A running identity of the same queue, host and
  platform, or under the server's id, refuses it.  `server_keeps_record_of_refused_registration`:
  the second refusal comes after the server has registered the worker.
-/

set_option autoImplicit false

namespace BuildWorker

/-! ## Keeping some entries -/

namespace Folder

variable {f f' : Folder} {p q : String → Bool} {n : String}

/-- The directory with only the entries whose names pass a test. -/
def keep (f : Folder) (p : String → Bool) : Folder :=
  { f with entries := f.entries.filter fun e => p e.1 }

theorem get?_keep : (f.keep p).get? n = if p n then f.get? n else none := by
  unfold keep get?
  rw [List.find?_filter]
  split
  next hp =>
    congr 2
    funext e
    by_cases he : e.1 = n
    · simp [he, hp]
    · simp [he]
  next hp =>
    rw [List.find?_eq_none.2 fun e _ => ?_, Option.map_none]
    by_cases he : e.1 = n
    · simp [he, hp]
    · simp [he]

theorem readText_keep : (f.keep p).readText n = if p n then f.readText n else .error .notFound := by
  unfold readText readBytes
  by_cases hp : p n
  · simp only [get?_keep, if_pos hp]
  · simp only [get?_keep, if_neg hp]
    rfl

@[simp] theorem keep_true : f.keep (fun _ => true) = f := by
  simp [keep]

@[simp] theorem keep_keep : (f.keep p).keep q = f.keep fun n => p n && q n := by
  simp only [keep, List.filter_filter, Bool.and_comm]

/-- Removing a file keeps the other names. -/
theorem remove_ok (h : f.remove n = .ok f') : f' = f.keep (· != n) := by
  unfold remove at h
  split at h
  · cases h
    rfl
  · cases h
  · cases h

end Folder

/-- The workers directory with only the entries whose names pass a test. -/
def WorkersDir.keep : WorkersDir → (String → Bool) → WorkersDir
  | .present f, p => .present (f.keep p)
  | d, _ => d

namespace WorkersDir

variable {d : WorkersDir} {p q : String → Bool}

@[simp] theorem keep_true : d.keep (fun _ => true) = d := by
  cases d <;> simp [keep]

@[simp] theorem keep_keep : (d.keep p).keep q = d.keep fun n => p n && q n := by
  cases d <;> simp [keep]

end WorkersDir

namespace StoreState

variable {s t : StoreState} {p : String → Bool}

@[simp] theorem with_keep_true : ({ s with dir := s.dir.keep fun _ => true } : StoreState) = s := by
  simp

theorem folder_of_keep (h : t.dir = s.dir.keep p) : t.folder = s.folder.keep p := by
  unfold folder
  rw [h]
  cases s.dir <;> rfl

theorem entryAt_of_keep (h : t.dir = s.dir.keep p) (n : String) :
    t.entryAt n = if p n then s.entryAt n else none := by
  rw [entryAt, folder_of_keep h, Folder.get?_keep, entryAt]

theorem entryAt_of_dir (h : t.dir = s.dir) (n : String) : t.entryAt n = s.entryAt n := by
  simp only [entryAt, folder, h]

/-- What a step edits depends on the directory it starts from, not on the server or the
locks. -/
theorem EditsOnly.from_dir {names : String → Prop} {s' : StoreState} (h : s.EditsOnly names s')
    (same : t.dir = s.dir) : t.EditsOnly names s' :=
  ⟨fun n hn => by rw [h.frame n hn, entryAt_of_dir same],
   fun n hd => by rw [entryAt_of_dir same]; exact h.noNewDir n hd⟩

end StoreState

/-! ## Steps that only remove files -/

/-- A store step that leaves the locks and the server alone and keeps every entry of the
directory whose name is not in `names`. -/
def StoreM.RemovesOnly {α : Type} (names : String → Prop) (m : StoreM α) : Prop :=
  ∀ s, ∃ p : String → Bool, (∀ n, p n = false → names n) ∧
    (runStoreStep m s).2 = { s with dir := s.dir.keep p }

namespace StoreM.RemovesOnly

variable {α β : Type} {names : String → Prop}

theorem of_pure (a : α) : (pure a : StoreM α).RemovesOnly names :=
  fun s => ⟨fun _ => true, by simp, by simp⟩

theorem mono {names' : String → Prop} {m : StoreM α} (h : m.RemovesOnly names)
    (sub : ∀ n, names n → names' n) : m.RemovesOnly names' := by
  intro s
  obtain ⟨p, hp, run⟩ := h s
  exact ⟨p, fun n hn => sub n (hp n hn), run⟩

theorem of_bind {m : StoreM α} {f : α → StoreM β} (hm : m.RemovesOnly names)
    (hf : ∀ a, (f a).RemovesOnly names) : (m >>= f).RemovesOnly names := by
  intro s
  obtain ⟨p, hp, run⟩ := hm s
  rw [runStoreStep_bind]
  rcases hr : runStoreStep m s with ⟨_ | a, s₁⟩
  · rw [hr] at run
    exact ⟨p, hp, run⟩
  · rw [hr] at run
    dsimp only at run ⊢
    subst run
    obtain ⟨q, hq, run'⟩ := hf a { s with dir := s.dir.keep p }
    refine ⟨fun n => p n && q n, fun n hn => ?_, by rw [run']; simp⟩
    -- a removed name was removed by one of the two steps
    cases hpn : p n
    · exact hp n hpn
    · simp only [hpn, Bool.true_and] at hn
      exact hq n hn

/-- A loop whose every round only removes files of `names` only removes files of
`names`. -/
theorem of_forIn {body : α → β → StoreM (ForInStep β)} (l : List α) (init : β)
    (h : ∀ a ∈ l, ∀ b, (body a b).RemovesOnly names) : (forIn l init body).RemovesOnly names := by
  induction l generalizing init with
  | nil => exact of_pure init
  | cons a l ih =>
      rw [List.forIn_cons]
      refine of_bind (h a (by simp) init) fun step => ?_
      cases step with
      | done b => exact of_pure b
      | yield b => exact ih b fun a' ha' => h a' (by simp [ha'])

end StoreM.RemovesOnly

namespace IdentityStore

variable (store : IdentityStore)

/-- The names the store keeps for a worker: its YAML file, its lock file and its legacy
file. -/
def workerFiles (w : String) : List String := [fileName w, lockName w, w]

theorem removeIfPresent_removesOnly (name : String) :
    (store.removeIfPresent name).RemovesOnly (· = name) := by
  rintro ⟨dir, locked, server, alive⟩
  -- everything but a removal leaves the state as it was
  have unchanged : ∃ p : String → Bool, (∀ n, p n = false → n = name) ∧
      (⟨dir, locked, server, alive⟩ : StoreState) = ⟨dir.keep p, locked, server, alive⟩ :=
    ⟨fun _ => true, by simp, by simp⟩
  unfold removeIfPresent
  simp only [runStoreStep_bind, runStoreStep_get]
  rcases dir with _ | _ | f
  · exact unchanged
  · exact unchanged
  · dsimp only
    rcases hr : f.remove name with e | f'
    · cases e <;> exact unchanged
    · refine ⟨(· != name), fun n hn => by simpa using hn, ?_⟩
      simp [Folder.remove_ok hr, WorkersDir.keep]

end IdentityStore

/-! ## The server's records -/

namespace MemoryQueue

theorem any_filter_other (ws : List (String × QueueName)) {w w' : String} (h : w' ≠ w) :
    (ws.filter (·.1 != w)).any (·.1 == w') = ws.any (·.1 == w') := by
  rw [List.any_filter]
  congr 1
  funext a
  by_cases ha : a.1 = w'
  · simp [ha, h]
  · simp [ha]

/-- Removing a worker forgets its record and keeps the others. -/
theorem hasWorker_removeWorker (q : MemoryQueue) (w w' : String) :
    (q.removeWorker w).2.hasWorker w' = (w' != w && q.hasWorker w') := by
  by_cases h : w' = w
  · simp [removeWorker, hasWorker, h]
  · simp only [removeWorker, hasWorker, any_filter_other _ h]
    simp [h]

end MemoryQueue

/-! ## Loading after a removal -/

namespace IdentityStore

variable (store : IdentityStore)

/-- What loading a worker gives, as a function of the directory: the identity its YAML
file holds, else the one its legacy file holds. -/
def loading : WorkersDir → String → Except WorkerError Identity
  | .blocked, w => .error (store.failAt (fileName w) .notDirectory)
  | .missing, w => .error (.identityNotFound w)
  | .present f, w =>
      let legacy : Except WorkerError Identity := match Legacy.load f w with
        | some i => .ok i
        | none => .error (.identityNotFound w)
      match f.readText (fileName w) with
      | .ok text =>
          match Identity.ofYamlText text with
          | some i => .ok i
          | none => legacy
      | .error .notFound => legacy
      | .error e => .error (store.failAt (fileName w) e)

/-- **Loading only reads**, and gives `loading` of the directory. -/
theorem load_run (s : StoreState) (w : String) :
    runStoreStep (store.load w) s = (store.loading s.dir w, s) := by
  unfold load loading
  simp only [runStoreStep_bind, runStoreStep_get]
  rcases s.dir with _ | _ | f
  · rfl
  · rfl
  · dsimp only
    rcases f.readText (fileName w) with e | text
    · -- a missing YAML file falls back to the legacy file, any other failure is final
      cases e <;> dsimp only <;> (try rcases Legacy.load f w with _ | i) <;> rfl
    · dsimp only
      rcases Identity.ofYamlText text with _ | i
      · rcases Legacy.load f w with _ | j <;> rfl
      · rfl

end IdentityStore

/-- Removing entries keeps a directory as the store writes it. -/
theorem Folder.IdentitiesNamed.keep {f : Folder} (kept : f.IdentitiesNamed) (p : String → Bool) :
    (f.keep p).IdentitiesNamed where
  distinct := kept.distinct.sublist (List.filter_sublist.map _)
  nonempty e he := kept.nonempty e (List.mem_of_mem_filter he)
  readable n e hy hread := by
    rw [readText_keep] at hread
    split at hread
    · exact kept.readable n e hy hread
    · cases hread
      rfl
  named n text i hn hread hparse := by
    rw [readText_keep] at hread
    split at hread
    · exact kept.named n text i hn hread hparse
    · cases hread

/-! ## What a removal keeps of other workers -/

namespace IdentityStore

variable (store : IdentityStore)

/-- What a step keeps of worker `w`: the entries of its names, what loading it gives, the
server's record of it, and, when the directory is usable and kept as the store writes
it, the identities of `w` the listing holds. -/
structure KeepsWorker (w : String) (s s' : StoreState) : Prop where
  files : ∀ n ∈ workerFiles w, s'.entryAt n = s.entryAt n
  loads : (runStoreStep (store.load w) s').1 = (runStoreStep (store.load w) s).1
  server : s'.server.hasWorker w = s.server.hasWorker w
  listed : s.dir ≠ .blocked → s.folder.IdentitiesNamed →
    ∃ before after, (runStoreStep store.list s).1 = .ok before ∧
      (runStoreStep store.list s').1 = .ok after ∧
      ∀ i, i ∈ after ∧ i.workerId = w ↔ i ∈ before ∧ i.workerId = w

theorem KeepsWorker.refl {w : String} (s : StoreState) : store.KeepsWorker w s s where
  files _ _ := rfl
  loads := rfl
  server := rfl
  listed usable kept := by
    obtain ⟨before, run, -⟩ := store.list_spec usable kept
    exact ⟨before, before, by rw [run], by rw [run], fun _ => Iff.rfl⟩

end IdentityStore

/-! ## Registering -/

/-- Whether an identity holds the place a registration asks for: it is marked running,
for the same queue, host and platform. -/
def Identity.occupies (i : Identity) (queue : QueueName) (platform hostname : String) : Bool :=
  i.running && i.queueName == queue && i.hostname == hostname && i.platform == platform

namespace IdentityStore

variable (store : IdentityStore)

@[simp] theorem runStoreStep_set (t s : StoreState) :
    runStoreStep (set t : StoreM Unit) s = (.ok (), t) := rfl

/-- One round of the vacancy check, given the other processes that exist: an identity
that occupies the place refuses the registration. -/
def vacancyStep (queue : QueueName) (platform hostname : String) (others : List Nat) (_ : Unit)
    (i : Identity) : Except WorkerError Unit :=
  if i.occupies queue platform hostname then .error (i.refusal others) else .ok ()

/-- The vacancy check as a fold over the listing passes exactly when no listed identity
occupies the place. -/
theorem foldlM_vacancy {queue : QueueName} {platform hostname : String} {others : List Nat}
    (listed : List Identity) :
    listed.foldlM (vacancyStep queue platform hostname others) () = .ok () ↔
      ∀ i ∈ listed, i.occupies queue platform hostname = false := by
  induction listed with
  | nil => exact iff_of_true rfl (by simp)
  | cons i listed ih =>
      rw [List.foldlM_cons, List.forall_mem_cons]
      by_cases h : i.occupies queue platform hostname
      · -- the first identity that occupies the place refuses
        have refuses : vacancyStep queue platform hostname others () i =
            .error (i.refusal others) := by
          simp [vacancyStep, h]
        rw [refuses]
        exact iff_of_false (by rintro ⟨⟩) (by simp [h])
      · have passes : vacancyStep queue platform hostname others () i = .ok () := by
          simp [vacancyStep, h]
        rw [passes]
        show List.foldlM _ () listed = _ ↔ _
        rw [ih]
        simp [h]

/-- **The vacancy check only reads**, and passes exactly when the listing succeeds and no
listed identity occupies the place. -/
theorem checkVacancy_run (s : StoreState) (queue : QueueName) (platform hostname : String) :
    ∃ r, runStoreStep (store.checkVacancy queue platform hostname) s = (r, s) ∧
      (r = .ok () ↔ ∃ listed, (runStoreStep store.list s).1 = .ok listed ∧
        ∀ i ∈ listed, i.occupies queue platform hostname = false) := by
  unfold checkVacancy
  rw [runStoreStep_bind, runStoreStep_get]
  dsimp only
  rw [runStoreStep_bind, list_run]
  rcases hl : store.listing s.dir with e | listed
  · exact ⟨.error e, rfl, by simp⟩
  · dsimp only
    rw [runStoreStep_bind,
      runStoreStep_forIn_of_reads _ _ _ (vacancyStep queue platform hostname s.alive)]
    · have vacant : (∃ l, (Except.ok listed : Except WorkerError (List Identity)) = .ok l ∧
          ∀ i ∈ l, i.occupies queue platform hostname = false) ↔
          listed.foldlM (vacancyStep queue platform hostname s.alive) () = .ok () := by
        simp [foldlM_vacancy]
      rcases hf : listed.foldlM (vacancyStep queue platform hostname s.alive) () with e | ⟨⟩
      · exact ⟨.error e, rfl, by rw [vacant, hf]⟩
      · exact ⟨.ok (), rfl, by rw [vacant, hf]⟩
    · intro i _ s'
      unfold vacancyStep Identity.occupies
      split <;> simp_all [Except.map]

/-- The identity a registration saves under the id the server gives: the queue, host,
platform and distribution asked for, not running. -/
def registered (queue : QueueName) (platform hostname dist id : String) : Identity :=
  { workerId := id, username := queue.user, queue := queue.queue, platform, hostname, dist }

section Register

variable {s : StoreState} {queue : QueueName} {platform hostname dist id : String}
  {server : MemoryQueue}

/-- A listing that fails fails the vacancy check with its own error, and changes
nothing. -/
theorem checkVacancy_of_list_error {e : WorkerError}
    (h : (runStoreStep store.list s).1 = .error e) :
    runStoreStep (store.checkVacancy queue platform hostname) s = (.error e, s) := by
  simp only [list_run] at h
  unfold checkVacancy
  rw [runStoreStep_bind, runStoreStep_get]
  dsimp only
  rw [runStoreStep_bind, list_run, h]

/-- Refused at the vacancy check, a registration changes nothing. -/
theorem register_refused {e : WorkerError}
    (check : runStoreStep (store.checkVacancy queue platform hostname) s = (.error e, s)) :
    runStoreStep (store.register queue platform hostname dist) s = (.error e, s) := by
  simp [register, check]

/-- Past the vacancy check the server registers the worker, and a running identity under
the id it gives refuses the registration. -/
theorem register_running {p : Identity}
    (check : runStoreStep (store.checkVacancy queue platform hostname) s = (.ok (), s))
    (reg : s.server.registerWorker queue = (id, server))
    (previous : store.loading s.dir id = .ok p) (running : p.running = true) :
    runStoreStep (store.register queue platform hostname dist) s =
      (.error (p.refusal s.alive), { s with server }) := by
  simp [register, check, reg, load_run, previous, running]

/-- Past both refusals, registering saves the new identity. -/
theorem register_saves
    (check : runStoreStep (store.checkVacancy queue platform hostname) s = (.ok (), s))
    (reg : s.server.registerWorker queue = (id, server))
    (idle : ∀ p, store.loading s.dir id = .ok p → p.running = false) :
    runStoreStep (store.register queue platform hostname dist) s =
      runStoreStep (do
          store.save (registered queue platform hostname dist id)
          pure (registered queue platform hostname dist id))
        { s with server } := by
  unfold register
  simp only [runStoreStep_bind, check, runStoreStep_get, reg, runStoreStep_set,
    runStoreStep_tryCatch, runStoreStep_map, load_run]
  rcases hl : store.loading s.dir id with e | p
  · simp [registered]
  · simp [idle p hl, registered]

/-- Saving an identity from a state that differs from `s` only in its server keeps that
server and the locks.  It succeeds with the identity stored, and no file changed but the
identity's and its temporary file, which is gone; or it fails, and no file changed but
the temporary one. -/
theorem save_and_return (s : StoreState) (server : MemoryQueue) (i : Identity) :
    let out := runStoreStep (do store.save i; pure i) { s with server }
    out.2.server = server ∧ out.2.locked = s.locked ∧
    (∀ j, out.1 = .ok j → j = i ∧ out.2.Stores i ∧
      s.EditsOnly (fun n => n = tempName (fileName i.workerId) ∨ n = fileName i.workerId) out.2 ∧
      out.2.entryAt (tempName (fileName i.workerId)) = none) ∧
    (∀ e, out.1 = .error e → s.EditsOnly (· = tempName (fileName i.workerId)) out.2) := by
  obtain ⟨locked, edits, stored, kept, -⟩ := store.save_spec { s with server } i
  have keepsServer := store.save_keepsServer i { s with server }
  dsimp only
  rw [runStoreStep_bind]
  rcases hsave : runStoreStep (store.save i) { s with server } with ⟨_ | ⟨⟩, t⟩
  all_goals
    rw [hsave] at locked edits stored kept keepsServer
    dsimp only at locked edits stored kept keepsServer ⊢
  · -- the save failed: the identity's file is as it was
    exact ⟨keepsServer, locked, fun _ h => (by cases h),
      fun _ _ => (edits.of_kept (kept rfl)).from_dir rfl⟩
  · obtain ⟨stores, tempGone⟩ := stored rfl
    refine ⟨keepsServer, locked, fun j h => ?_, fun _ h => (by cases h)⟩
    cases h
    exact ⟨rfl, stores, edits.from_dir rfl, tempGone⟩

end Register

/-- **A registration completes, or changes no file but a temporary one.**  One that
succeeds saves `registered` under the id the server gives, not running: the server holds
its new record, the locks are as they were, and no file changed but the identity's file
and its temporary file, which is gone.  One that fails changes nothing, or leaves the
server's new record, the locks and every file but the temporary one.  A listing that
fails, or that lists an identity marked running for the same queue, host and platform,
refuses the registration with nothing changed, and an identity marked running under the
server's id refuses it too. -/
theorem register_completes_or_keeps_files (s : StoreState) (queue : QueueName)
    (platform hostname dist : String) :
    let out := runStoreStep (store.register queue platform hostname dist) s
    let id := (s.server.registerWorker queue).1
    (∀ i, out.1 = .ok i → i = registered queue platform hostname dist id ∧
      out.2.server = (s.server.registerWorker queue).2 ∧ out.2.locked = s.locked ∧
      out.2.Stores i ∧
      s.EditsOnly (fun n => n = tempName (fileName id) ∨ n = fileName id) out.2 ∧
      out.2.entryAt (tempName (fileName id)) = none) ∧
    (∀ e, out.1 = .error e → out.2 = s ∨
      out.2.server = (s.server.registerWorker queue).2 ∧ out.2.locked = s.locked ∧
        s.EditsOnly (· = tempName (fileName id)) out.2) ∧
    (∀ e, (runStoreStep store.list s).1 = .error e → out = (.error e, s)) ∧
    (∀ listed, (runStoreStep store.list s).1 = .ok listed →
      (∃ i ∈ listed, i.occupies queue platform hostname = true) → ∃ e, out = (.error e, s)) ∧
    (∀ p, (runStoreStep (store.load id) s).1 = .ok p → p.running = true →
      ∃ e, out.1 = .error e) := by
  dsimp only
  -- a listing that fails refuses the registration at the vacancy check
  have listFails : ∀ e, (runStoreStep store.list s).1 = .error e →
      runStoreStep (store.register queue platform hostname dist) s = (.error e, s) :=
    fun _ h => store.register_refused (store.checkVacancy_of_list_error h)
  obtain ⟨r, check, vacancy⟩ := store.checkVacancy_run s queue platform hostname
  rcases r with e | ⟨⟩
  · -- refused before the server is asked: nothing changed
    rw [store.register_refused check] at listFails ⊢
    exact ⟨fun _ h => (by cases h), fun _ _ => .inl rfl, listFails, fun _ _ _ => ⟨e, rfl⟩,
      fun _ _ _ => ⟨e, rfl⟩⟩
  -- the place is free, so no listed identity occupies it
  obtain ⟨listed, hlisted, free⟩ := vacancy.1 rfl
  have noOccupant : ∀ listed', (runStoreStep store.list s).1 = .ok listed' →
      (∃ i ∈ listed', i.occupies queue platform hostname = true) →
      ∃ e, runStoreStep (store.register queue platform hostname dist) s = (.error e, s) := by
    rintro listed' hl ⟨i, hi, occupies⟩
    rw [hlisted] at hl
    cases hl
    rw [free i hi] at occupies
    cases occupies
  rcases reg : s.server.registerWorker queue with ⟨id, server⟩
  dsimp only
  by_cases running : ∃ p, store.loading s.dir id = .ok p ∧ p.running = true
  · -- the server's id has a running identity: refused after the server registered it
    obtain ⟨p, previous, hp⟩ := running
    rw [store.register_running check reg previous hp] at listFails noOccupant ⊢
    exact ⟨fun _ h => (by cases h), fun _ _ => .inr ⟨rfl, rfl, ⟨fun _ _ => rfl, fun _ h => h⟩⟩,
      listFails, noOccupant, fun _ _ _ => ⟨p.refusal s.alive, rfl⟩⟩
  have idle : ∀ p, store.loading s.dir id = .ok p → p.running = false := by
    intro p hp
    simpa using fun h => running ⟨p, hp, h⟩
  have notRunning : ∀ p, (runStoreStep (store.load id) s).1 = .ok p → p.running = true → False :=
    fun p hp running => absurd (idle p (by simpa [load_run] using hp)) (by simp [running])
  -- past both refusals the new identity is saved, from the state with the new record
  rw [store.register_saves check reg idle] at listFails noOccupant ⊢
  obtain ⟨keepsServer, locked, saved, failed⟩ :=
    store.save_and_return s server (registered queue platform hostname dist id)
  refine ⟨fun i h => ?_, fun e h => .inr ⟨keepsServer, locked, failed e h⟩, listFails,
    noOccupant, fun p hp running => (notRunning p hp running).elim⟩
  obtain ⟨rfl, stores, edits, tempGone⟩ := saved i h
  exact ⟨rfl, keepsServer, locked, stores, edits, tempGone⟩

end IdentityStore

/-- A directory whose identity file for `worker-1` is marked running, for another queue. -/
def runningElsewhere : StoreState where
  dir := .present
    { entries := [("worker-1.yaml",
        .file 0 (Text.encode { workerOne with queue := "other", running := true }.toYamlText))]
      nextNode := 1 }

/-- **The second refusal comes late**: registering for `alice/default` where the server's
next id, `worker-1`, has a file marked running is refused as stale only after the server
registered `worker-1`, which it keeps without an identity saved for it. -/
theorem server_keeps_record_of_refused_registration :
    (runStoreStep (listingStore.register ⟨"alice", "default"⟩ "linux-64" "builder" "ubuntu-22.04")
      runningElsewhere).1 = .error (.staleIdentity "worker-1") ∧
    runningElsewhere.server.hasWorker "worker-1" = false ∧
    (runStoreStep (listingStore.register ⟨"alice", "default"⟩ "linux-64" "builder" "ubuntu-22.04")
      runningElsewhere).2.server.hasWorker "worker-1" = true := by
  decide +kernel

end BuildWorker
