import BuildWorker.Identity.Store
/-!
# What each step of the identity store changes

A store step reads and writes the files of the workers directory and the set of locks
held.  This module says, for the steps that take and release running guards, which
files a step may change and how it changes them; every other file stays as it was.

* `runStoreStep_bind` and its companions run a step's `do` block one action at a time,
  so a step is read off its definition by `simp` and case splits.
* `Folder.get?_put_self`, `Folder.get?_put_ne`, `Folder.write_get?` and
  `Folder.rename_get?` say what a directory's names find after a write or a rename.
* `StoreState.EditsOnly names s s'` is the frame: `s'` finds what `s` finds at every
  name outside `names`, and has no subdirectory `s` lacked.
* Taking a guard is three steps, each with its own lemma: `lock_spec` (the lock is
  taken), `loadIdle_spec` (the identity is read, and refused if running) and
  `markRunning_spec` (it is saved running); a step after the lock that fails lets the
  lock go (`runStoreStep_underLock`).  Letting a guard go is two: `clearRunning_spec`
  (the identity is saved not running), then the lock is let go.  `save_spec` says what
  saving does, and `load_state` that loading only reads.
* `acquire_ok` says what a granted guard leaves behind, `acquire_error` that a refusal
  touches only the lock file and a temporary file, `acquire_held` that a worker whose
  lock file is locked is refused, and `release_spec` what letting go leaves.
* `StoreM.KeepsServer` is a step that leaves the queue server alone; taking and letting
  go of a guard are such steps (`acquire_keepsServer`, `release_keepsServer`).

Names of different kinds never meet: an identity file ends in `l`, a lock file in `k`
and a temporary file in `p` (`fileName_ne_lockName` and its companions).
-/

set_option autoImplicit false

namespace BuildWorker

/-! ## Running store steps -/

section Run

variable {α β : Type}

@[simp] theorem runStoreStep_bind (x : StoreM α) (f : α → StoreM β) (s : StoreState) :
    runStoreStep (x >>= f) s =
      match runStoreStep x s with
      | (.ok a, s') => runStoreStep (f a) s'
      | (.error e, s') => (.error e, s') := by
  simp only [runStoreStep, ExceptT.run_bind, StateT.run_bind]
  rcases (x.run.run s) with ⟨_ | _, _⟩ <;> rfl

@[simp] theorem runStoreStep_map (g : α → β) (x : StoreM α) (s : StoreState) :
    runStoreStep (g <$> x) s =
      match runStoreStep x s with
      | (.ok a, s') => (.ok (g a), s')
      | (.error e, s') => (.error e, s') := by
  simp only [runStoreStep, ExceptT.run_map, StateT.run_map]
  rcases (x.run.run s) with ⟨_ | _, _⟩ <;> rfl

@[simp] theorem runStoreStep_pure (a : α) (s : StoreState) :
    runStoreStep (pure a : StoreM α) s = (.ok a, s) := rfl

@[simp] theorem runStoreStep_throw (e : WorkerError) (s : StoreState) :
    runStoreStep (throw e : StoreM α) s = (.error e, s) := rfl

@[simp] theorem runStoreStep_get (s : StoreState) : runStoreStep get s = (.ok s, s) := rfl

@[simp] theorem runStoreStep_modify (g : StoreState → StoreState) (s : StoreState) :
    runStoreStep (modify g) s = (.ok (), g s) := rfl

@[simp] theorem runStoreStep_tryCatch (x : StoreM α) (handle : WorkerError → StoreM α)
    (s : StoreState) :
    runStoreStep (tryCatch x handle) s =
      match runStoreStep x s with
      | (.ok a, s') => (.ok a, s')
      | (.error e, s') => runStoreStep (handle e) s' := by
  unfold runStoreStep
  show (ExceptT.tryCatch x handle).run.run s = _
  unfold ExceptT.tryCatch
  simp only [ExceptT.run_mk, StateT.run_bind]
  rcases h : x.run.run s with ⟨_ | _, _⟩ <;> simp only [ExceptT.run] at h <;> simp [h] <;> rfl

end Run

/-! ## Directory entries -/

namespace Folder

variable (f : Folder) {m n : String} (e : Entry)

/-- Replacing entries keeps every name, so it does not change which entry a name finds. -/
theorem find?_replace (m : String) :
    ((fun x : String × Entry => x.1 == m) ∘ fun x => if x.1 == n then (x.1, e) else x) =
      (fun x => x.1 == m) := by
  funext x
  by_cases hx : x.1 = n <;> simp [hx]

@[simp] theorem get?_put_self : (f.put n e).get? n = some e := by
  unfold put get?
  split
  next named =>
    rw [List.find?_map, find?_replace]
    obtain ⟨y, hy⟩ :=
      Option.isSome_iff_exists.1 (List.find?_isSome.2 (List.any_eq_true.1 named))
    have := List.find?_some hy
    simp only [beq_iff_eq] at this
    simp [hy, this]
  next fresh =>
    simp only [List.any_eq_true, not_exists, not_and] at fresh
    rw [List.find?_append, List.find?_eq_none.2 (by simpa using fresh)]
    simp

theorem get?_put_ne (h : m ≠ n) : (f.put n e).get? m = f.get? m := by
  unfold put get?
  split
  · rw [List.find?_map, find?_replace]
    cases hfind : f.entries.find? (fun x => x.1 == m) with
    | none => rfl
    | some y =>
      have := List.find?_some hfind
      simp only [beq_iff_eq] at this
      simp [this, h]
  · rw [List.find?_append]
    cases f.entries.find? (fun x => x.1 == m) <;> simp [Ne.symm h]

variable {f}

/-- A write puts a file under its name, keeping the node of a file already there, and
changes no other name. -/
theorem write_get? {f' : Folder} {bytes : List UInt8} (h : f.write n bytes = .ok f') :
    (∃ node, f'.get? n = some (.file node bytes) ∧
      ∀ old b, f.get? n = some (.file old b) → node = old) ∧
    ∀ m, m ≠ n → f'.get? m = f.get? m := by
  unfold write at h
  split at h
  next old b hold =>
    cases h
    exact ⟨⟨old, by simp, fun _ _ h => by simp_all⟩, fun m hm => get?_put_ne _ _ hm⟩
  next => cases h
  next hnone =>
    cases h
    refine ⟨⟨f.nextNode, get?_put_self _ _, fun _ _ h => by simp_all⟩, fun m hm => ?_⟩
    exact get?_put_ne _ _ hm

/-- A write fails only on a directory. -/
theorem dir_of_write_error {bytes : List UInt8} {e : SystemFailure}
    (h : f.write n bytes = .error e) : f.get? n = some .dir := by
  unfold write at h
  split at h <;> first | assumption | cases h

/-- A rename moves the entry to its new name and leaves the old name empty. -/
theorem rename_get? {f' : Folder} {src dst : String} (h : f.rename src dst = .ok f')
    (hne : src ≠ dst) (m : String) :
    f'.get? m = if m = dst then f.get? src else if m = src then none else f.get? m := by
  unfold rename at h
  split at h
  · cases h
  · cases h
  next e _ hsrc _ =>
    simp only [beq_iff_eq, hne, if_false, Except.ok.injEq] at h
    subst h
    by_cases hd : m = dst
    · subst hd
      simp [hsrc]
    · rw [get?_put_ne _ _ hd]
      by_cases hs : m = src
      · subst hs
        simp [get?, List.find?_filter, hd]
      · simp only [hd, hs, if_false, get?]
        congr 1
        rw [List.find?_filter]
        congr 1
        funext x
        by_cases hx : x.1 = m
        · simp [hx, hs]
        · simp [hx]

/-- A rename fails only when the old name is missing or the new one is a directory. -/
theorem rename_error {src dst : String} {e : SystemFailure} (h : f.rename src dst = .error e) :
    f.get? src = none ∨ f.get? dst = some .dir := by
  unfold rename at h
  split at h
  · exact .inl ‹_›
  · exact .inr ‹_›
  · split at h <;> cases h

end Folder

/-! ## The directory as the store sees it -/

@[simp] theorem Folder.get?_with_nextNode (f : Folder) (k : Nat) (n : String) :
    ({ f with nextNode := k } : Folder).get? n = f.get? n := rfl

/-- The folder a step that creates the workers directory starts from: the directory's
own, or an empty one. -/
def StoreState.folder (s : StoreState) : Folder :=
  match s.dir with
  | .present f => f
  | _ => {}

/-- The entry under a name of the workers directory; none when there is no directory. -/
def StoreState.entryAt (s : StoreState) (name : String) : Option Entry := s.folder.get? name

namespace StoreState

@[simp] theorem folder_present (s : StoreState) (f : Folder) :
    ({ s with dir := .present f } : StoreState).folder = f := rfl

@[simp] theorem folder_mk (f : Folder) (locked : List Nat) (server : MemoryQueue)
    (alive : List Nat) : ({ dir := .present f, locked, server, alive } : StoreState).folder = f :=
  rfl

@[simp] theorem entryAt_present (s : StoreState) (f : Folder) (name : String) :
    ({ s with dir := .present f } : StoreState).entryAt name = f.get? name := rfl

/-- Setting the directory's folder to the one it has changes nothing. -/
theorem with_present {s : StoreState} {f : Folder} (h : s.dir = .present f) :
    ({ s with dir := .present f } : StoreState) = s := by
  cases s
  simp_all

/-- An entry is found only in a directory that exists. -/
theorem dir_of_entryAt {s : StoreState} {name : String} {e : Entry}
    (h : s.entryAt name = some e) : s.dir = .present s.folder := by
  rcases hd : s.dir with _ | _ | f <;> simp [entryAt, folder, hd, Folder.get?] at h ⊢

/-- The second state's directory differs from the first's only at names that `names`
holds of, and has no subdirectory the first lacked. -/
structure EditsOnly (names : String → Prop) (s s' : StoreState) : Prop where
  frame : ∀ n, ¬ names n → s'.entryAt n = s.entryAt n
  noNewDir : ∀ n, s'.entryAt n = some .dir → s.entryAt n = some .dir

namespace EditsOnly

variable {names : String → Prop} {s s₁ s₂ : StoreState}

theorem refl : s.EditsOnly names s := ⟨fun _ _ => rfl, fun _ h => h⟩

theorem trans {names' : String → Prop} {s₃ : StoreState} (h₁ : s₁.EditsOnly names s₂)
    (h₂ : s₂.EditsOnly names' s₃) : s₁.EditsOnly (fun n => names n ∨ names' n) s₃ :=
  ⟨fun n hn => by rw [h₂.frame n fun h => hn (.inr h), h₁.frame n fun h => hn (.inl h)],
   fun n h => h₁.noNewDir n (h₂.noNewDir n h)⟩

theorem mono {names' : String → Prop} (h : s₁.EditsOnly names s₂) (sub : ∀ n, names n → names' n) :
    s₁.EditsOnly names' s₂ :=
  ⟨fun n hn => h.frame n (fun h' => hn (sub n h')), h.noNewDir⟩

/-- A new folder for the directory edits the names where it finds something else, as
long as that is no new subdirectory. -/
theorem present {f' : Folder} (same : ∀ m, ¬ names m → f'.get? m = s.folder.get? m)
    (noDir : ∀ m, names m → f'.get? m = some .dir → s.folder.get? m = some .dir) :
    s.EditsOnly names { s with dir := .present f' } := by
  refine ⟨same, fun m hm => ?_⟩
  by_cases hn : names m
  · exact noDir m hn hm
  · rw [entryAt_present, same m hn] at hm
    exact hm

/-- A name the edits left as it was need not be counted among them. -/
theorem of_kept {m : String} (h : s₁.EditsOnly (fun n => names n ∨ n = m) s₂)
    (kept : s₂.entryAt m = s₁.entryAt m) : s₁.EditsOnly names s₂ := by
  refine ⟨fun n hn => ?_, h.noNewDir⟩
  by_cases hm : n = m
  · exact hm ▸ kept
  · exact h.frame n fun h' => h'.elim hn hm

/-- Taking or letting go of locks edits no file. -/
theorem with_locked (h : s₁.EditsOnly names s₂) (l : List Nat) :
    s₁.EditsOnly names { s₂ with locked := l } :=
  ⟨h.frame, h.noNewDir⟩

/-- Creating the directory edits nothing the store can see. -/
theorem present_folder : s.EditsOnly names { s with dir := .present s.folder } :=
  present (fun _ _ => rfl) (fun _ _ h => h)

/-- Putting a file under a name edits that name only. -/
theorem put_file {f' : Folder} {n : String} {node : Nat} {bytes : List UInt8}
    (same : ∀ m, m ≠ n → f'.get? m = s.folder.get? m) :
    s.EditsOnly (· = n) { s with dir := .present (f'.put n (.file node bytes)) } :=
  present (fun m hm => by simp [Folder.get?_put_ne _ _ hm, same m hm])
    (fun m hm h => by simp [hm] at h)

end EditsOnly

/-- The identity file of the identity's worker holds exactly that identity. -/
def Stores (s : StoreState) (i : Identity) : Prop :=
  ∃ node, s.entryAt (IdentityStore.fileName i.workerId) =
    some (.file node (Text.encode i.toYamlText))

/-- A step that does not edit an identity's file keeps it stored. -/
theorem Stores.frame {s s' : StoreState} {names : String → Prop} {i : Identity}
    (h : s.Stores i) (edits : s.EditsOnly names s')
    (file : ¬ names (IdentityStore.fileName i.workerId)) : s'.Stores i := by
  unfold Stores at *
  rw [edits.frame _ file]
  exact h

end StoreState

namespace IdentityStore

variable (store : IdentityStore)

/-! ## Names -/

/-- The last character of a name with a given ending. -/
theorem getLast?_append_toList (x : String) (suffix : String) (c : Char)
    (h : suffix.toList.getLast? = some c) : (x ++ suffix).toList.getLast? = some c := by
  rw [String.toList_append, List.getLast?_append, h]
  rfl

theorem fileName_last (w : String) : (fileName w).toList.getLast? = some 'l' :=
  getLast?_append_toList _ _ _ rfl

theorem lockName_last (w : String) : (lockName w).toList.getLast? = some 'k' :=
  getLast?_append_toList _ _ _ rfl

theorem tempName_last (name : String) : (tempName name).toList.getLast? = some 'p' := by
  unfold tempName
  split <;> exact getLast?_append_toList _ _ _ rfl

theorem ne_of_last {a b : String} {c d : Char} (ha : a.toList.getLast? = some c)
    (hb : b.toList.getLast? = some d) (hcd : c ≠ d) : a ≠ b := by
  rintro rfl
  rw [ha] at hb
  exact hcd (Option.some.inj hb)

theorem fileName_ne_lockName (w v : String) : fileName w ≠ lockName v :=
  ne_of_last (fileName_last w) (lockName_last v) (by decide)

theorem fileName_ne_tempName (w : String) (name : String) : fileName w ≠ tempName name :=
  ne_of_last (fileName_last w) (tempName_last name) (by decide)

theorem lockName_ne_tempName (w : String) (name : String) : lockName w ≠ tempName name :=
  ne_of_last (lockName_last w) (tempName_last name) (by decide)

theorem fileName_injective {w v : String} (h : fileName w = fileName v) : w = v :=
  (String.append_left_inj _).mp h

theorem lockName_injective {w v : String} (h : lockName w = lockName v) : w = v :=
  (String.append_left_inj _).mp h

/-! ## Steps -/

theorem ensureFolder_blocked {s : StoreState} (h : s.dir = .blocked) :
    runStoreStep store.ensureFolder s = (.error (.path store.dirPath .alreadyExists), s) := by
  simp [ensureFolder, h]

theorem ensureFolder_usable {s : StoreState} (h : s.dir ≠ .blocked) :
    runStoreStep store.ensureFolder s = (.ok s.folder, { s with dir := .present s.folder }) := by
  unfold ensureFolder StoreState.folder
  rcases hd : s.dir with _ | _ | f
  · simp [hd]
  · exact absurd hd h
  · simp [hd, StoreState.with_present hd]

@[simp] theorem runStoreStep_setFolder (f : Folder) (s : StoreState) :
    runStoreStep (setFolder f) s = (.ok (), { s with dir := .present f }) := rfl

/-- **What taking a lock does.**  It edits no file but the lock file.  When it succeeds
the lock file holds the holder's process id, and its node, which no one held, is now
locked; when it fails the locks are as they were. -/
theorem lock_spec (s : StoreState) (w : String) (holder : ProcessId) :
    let out := runStoreStep (store.lock w holder) s
    s.EditsOnly (· = lockName w) out.2 ∧
    (out.1.isOk = false → out.2.locked = s.locked) ∧
    ∀ node, out.1 = .ok node →
      out.2.locked = node :: s.locked ∧ node ∉ s.locked ∧
      out.2.entryAt (lockName w) = some (.file node (Text.encode (holder.render ++ "\n"))) ∧
      ∀ n b, s.entryAt (lockName w) = some (.file n b) → n = node := by
  by_cases hb : s.dir = .blocked
  · simp [lock, ensureFolder_blocked store hb, Except.isOk, Except.toBool]
    exact .refl
  simp only [lock, runStoreStep_bind, ensureFolder_usable store hb]
  rcases hget : s.folder.get? (lockName w) with _ | ⟨node, b⟩ | _
  · -- a new lock file, with the next node of the directory
    by_cases hmem : s.folder.nextNode ∈ s.locked
    · simp [hget, hmem, Folder.writeText, Folder.write, Folder.nodeOf?, Except.isOk,
        Except.toBool]
      exact .present (fun m hm => by simp [Folder.get?_put_ne _ _ hm])
        (fun m (hm : m = lockName w) h => by subst hm; simp at h)
    · simp [hget, hmem, Folder.writeText, Folder.write, Folder.nodeOf?, Except.isOk,
        Except.toBool, StoreState.entryAt]
      exact (StoreState.EditsOnly.put_file fun m hm => by
        simp [Folder.get?_put_ne _ _ hm]).with_locked _
  · -- the lock file is there: refused if its node is locked
    by_cases hmem : node ∈ s.locked
    · simp [hget, hmem, Except.isOk, Except.toBool]
      exact .present_folder
    · simp [hget, hmem, Folder.writeText, Folder.write, Except.isOk, Except.toBool,
        StoreState.entryAt]
      exact (StoreState.EditsOnly.put_file fun _ _ => rfl).with_locked _
  · simp [hget, Except.isOk, Except.toBool]
    exact .present_folder

@[simp] theorem runStoreStep_unlock (node : Nat) (s : StoreState) :
    runStoreStep (unlock node) s = (.ok (), { s with locked := s.locked.erase node }) := rfl

/-- A step under a lock: what the step does, and the lock let go if it fails. -/
@[simp] theorem runStoreStep_underLock {α : Type} (node : Nat) (m : StoreM α) (s : StoreState) :
    runStoreStep (underLock node m) s =
      match runStoreStep m s with
      | (.ok a, s') => (.ok a, s')
      | (.error e, s') => (.error e, { s' with locked := s'.locked.erase node }) := by
  unfold underLock
  rw [runStoreStep_tryCatch]
  rcases runStoreStep m s with ⟨_ | _, _⟩ <;> rfl

/-- A step under a lock that succeeds is the step itself. -/
theorem runStoreStep_underLock_ok {α : Type} {node : Nat} {m : StoreM α} {s s' : StoreState}
    {a : α} (h : runStoreStep (underLock node m) s = (.ok a, s')) :
    runStoreStep m s = (.ok a, s') := by
  rw [runStoreStep_underLock] at h
  rcases hm : runStoreStep m s with ⟨_ | b, s₁⟩ <;> rw [hm] at h
  · cases h
  · exact h

/-- A step under a lock that fails is the step that failed, with the lock let go. -/
theorem runStoreStep_underLock_error {α : Type} {node : Nat} {m : StoreM α}
    {s s' : StoreState} {e : WorkerError} (h : runStoreStep (underLock node m) s = (.error e, s')) :
    ∃ s₁, runStoreStep m s = (.error e, s₁) ∧ s' = { s₁ with locked := s₁.locked.erase node } := by
  rw [runStoreStep_underLock] at h
  rcases hm : runStoreStep m s with ⟨_ | b, s₁⟩ <;> rw [hm] at h
  · simp only [Prod.mk.injEq, Except.error.injEq] at h
    exact ⟨s₁, by rw [h.1], h.2.symm⟩
  · cases h

/-- **What saving an identity does.**  It keeps the locks and edits no file but the
identity's file and the temporary file it is first written to.  When it succeeds the
file holds the identity, when it fails the file is as it was, and it succeeds whenever
the directory is usable and neither name is a subdirectory. -/
theorem save_spec (s : StoreState) (i : Identity) :
    let out := runStoreStep (store.save i) s
    out.2.locked = s.locked ∧
    s.EditsOnly (fun n => n = tempName (fileName i.workerId) ∨ n = fileName i.workerId) out.2 ∧
    (out.1 = .ok () → out.2.Stores i ∧ out.2.entryAt (tempName (fileName i.workerId)) = none) ∧
    (out.1.isOk = false → out.2.entryAt (fileName i.workerId) = s.entryAt (fileName i.workerId)) ∧
    (s.dir ≠ .blocked → s.entryAt (tempName (fileName i.workerId)) ≠ some .dir →
      s.entryAt (fileName i.workerId) ≠ some .dir → out.1 = .ok ()) := by
  by_cases hb : s.dir = .blocked
  · simp [save, ensureFolder_blocked store hb, hb]
    exact .refl
  have hne : tempName (fileName i.workerId) ≠ fileName i.workerId :=
    (fileName_ne_tempName _ _).symm
  simp only [save, runStoreStep_bind, ensureFolder_usable store hb]
  rcases hw : s.folder.writeText (tempName (fileName i.workerId)) i.toYamlText with e | f₁
  · -- the temporary name is a subdirectory
    simp
    exact ⟨.present_folder, fun _ => rfl, fun _ htemp => absurd (Folder.dir_of_write_error hw) htemp⟩
  obtain ⟨⟨node, hnode, -⟩, same₁⟩ := Folder.write_get? hw
  have kept : f₁.get? (fileName i.workerId) = s.folder.get? (fileName i.workerId) :=
    same₁ _ hne.symm
  rcases hr : f₁.rename (tempName (fileName i.workerId)) (fileName i.workerId) with e | f₂
  · -- the identity's name is a subdirectory
    simp [hr]
    refine ⟨.present (fun m hm => same₁ m fun h => hm (.inl h)) (fun m hm h => ?_), fun _ => kept,
      fun _ _ => ?_⟩
    · rcases hm with rfl | rfl
      · simp [hnode] at h
      · rwa [kept] at h
    · rcases Folder.rename_error hr with h | h
      · simp [hnode] at h
      · rwa [kept] at h
  · have moved := Folder.rename_get? hr hne
    simp [hr, Except.isOk, Except.toBool]
    refine ⟨.present (fun m hm => ?_) (fun m hm h => ?_), ⟨node, ?_⟩, ?_⟩
    · simp only [not_or] at hm
      rw [moved, if_neg hm.2, if_neg hm.1, same₁ m hm.1]
    · rcases hm with rfl | rfl <;> simp [moved, hne, hnode] at h
    · simp [StoreState.entryAt, moved, hnode]
    · simp [moved, hne]

/-- Loading an identity only reads. -/
theorem load_state (s : StoreState) (w : String) : (runStoreStep (store.load w) s).2 = s := by
  unfold load
  simp only [runStoreStep_bind, runStoreStep_get]
  split
  · rfl
  · rfl
  · -- read the YAML file, then the legacy file
    split
    all_goals
      simp only [runStoreStep_bind, runStoreStep_pure, runStoreStep_throw]
      repeat' split
      all_goals rfl

/-- **Loading an identity to mark it running** only reads; what it gives is what loading
gives, not marked running. -/
theorem loadIdle_spec (s : StoreState) (w : String) :
    (runStoreStep (store.loadIdle w) s).2 = s ∧
    ∀ i, (runStoreStep (store.loadIdle w) s).1 = .ok i →
      (runStoreStep (store.load w) s).1 = .ok i ∧ i.running = false := by
  have kept := load_state store s w
  unfold loadIdle
  rw [runStoreStep_bind]
  rcases hl : runStoreStep (store.load w) s with ⟨_ | i, s₁⟩
  · rw [hl] at kept
    exact ⟨kept, fun _ h => by cases h⟩
  · rw [hl] at kept
    subst kept
    by_cases hrun : i.running = true
    · simp [hrun]
    · simp [hrun]

/-- **Marking an identity running** is saving it running under the holder; the guard it
gives holds the lock it is given. -/
theorem markRunning_spec (s : StoreState) (i : Identity) (holder : ProcessId) (node : Nat) :
    let out := runStoreStep (store.markRunning i holder node) s
    out.2.locked = s.locked ∧
    s.EditsOnly (fun n => n = tempName (fileName i.workerId) ∨ n = fileName i.workerId) out.2 ∧
    (∀ g, out.1 = .ok g → g = ⟨{ i with running := true, pid := some holder }, node⟩ ∧
      out.2.Stores g.identity ∧ out.2.entryAt (tempName (fileName i.workerId)) = none) ∧
    (out.1.isOk = false → out.2.entryAt (fileName i.workerId) = s.entryAt (fileName i.workerId)) := by
  obtain ⟨locked, edits, stored, kept, -⟩ :=
    save_spec store s { i with running := true, pid := some holder }
  unfold markRunning
  rw [runStoreStep_bind]
  rcases hs : runStoreStep (store.save { i with running := true, pid := some holder }) s with
    ⟨_ | _, s'⟩
  · simp only [hs] at locked edits kept ⊢
    refine ⟨locked, edits, ?_, kept⟩
    intro g h
    cases h
  · simp only [hs, true_implies, runStoreStep_pure] at locked edits stored ⊢
    refine ⟨locked, edits, ?_, ?_⟩
    · intro g h
      cases h
      exact ⟨rfl, stored⟩
    · intro h
      simp [Except.isOk, Except.toBool] at h

/-- **A granted guard.**  Its lock file holds the holder and is now locked, and the
identity is saved running under the holder; no file changed but the worker's lock file,
the identity's file and its temporary file. -/
theorem acquire_ok {s s' : StoreState} {w : String} {holder : ProcessId} {g : RunningGuard}
    (h : runStoreStep (store.acquire w holder) s = (.ok g, s')) :
    s'.locked = g.lockNode :: s.locked ∧
    s.EditsOnly (fun n => n = lockName w ∨ n = tempName (fileName g.identity.workerId) ∨
      n = fileName g.identity.workerId) s' ∧
    s'.entryAt (lockName w) = some (.file g.lockNode (Text.encode (holder.render ++ "\n"))) ∧
    s'.Stores g.identity ∧ s'.entryAt (tempName (fileName g.identity.workerId)) = none ∧
    g.identity.running = true ∧ g.identity.pid = some holder := by
  obtain ⟨editsL, -, grantedL⟩ := lock_spec store s w holder
  simp only [acquire, runStoreStep_bind] at h
  rcases hl : runStoreStep (store.lock w holder) s with ⟨_ | node, s₁⟩
  · simp [hl] at h
  simp only [hl] at editsL grantedL h
  obtain ⟨lockedL, -, lockFile, -⟩ := grantedL node rfl
  -- loading changes nothing, and gives an identity not marked running
  obtain ⟨kept, -⟩ := loadIdle_spec store s₁ w
  rcases hd : runStoreStep (store.loadIdle w) s₁ with ⟨_ | i, s₂⟩
  · simp [hd] at h
  obtain rfl : s₂ = s₁ := by simpa [hd] using kept
  obtain ⟨lockedM, editsM, grantedM, -⟩ := markRunning_spec store s₂ i holder node
  simp only [hd, runStoreStep_underLock] at h
  rcases hm : runStoreStep (store.markRunning i holder node) s₂ with ⟨_ | g', s₃⟩
  · simp [hm] at h
  simp only [hm, Prod.mk.injEq, Except.ok.injEq] at h lockedM editsM grantedM
  obtain ⟨rfl, rfl⟩ := h
  obtain ⟨rfl, stored, tempGone⟩ := grantedM _ rfl
  refine ⟨lockedM.trans lockedL, (editsL.trans editsM).mono fun n hn => by simpa using hn, ?_,
    stored, tempGone, rfl, rfl⟩
  -- saving the identity leaves the lock file as the lock left it
  rw [editsM.frame _ (by simp [lockName_ne_tempName, (fileName_ne_lockName _ _).symm])]
  exact lockFile

/-- **A refused guard** keeps the locks and edits the worker's lock file and at most
one temporary file. -/
theorem acquire_error {s s' : StoreState} {w : String} {holder : ProcessId} {e : WorkerError}
    (h : runStoreStep (store.acquire w holder) s = (.error e, s')) :
    s'.locked = s.locked ∧ ∃ t, s.EditsOnly (fun n => n = lockName w ∨ n = tempName t) s' := by
  obtain ⟨editsL, refusedL, grantedL⟩ := lock_spec store s w holder
  simp only [acquire, runStoreStep_bind] at h
  rcases hl : runStoreStep (store.lock w holder) s with ⟨_ | node, s₁⟩
  · -- the lock is refused
    simp only [hl] at editsL refusedL
    simp only [hl, Prod.mk.injEq] at h
    obtain ⟨-, rfl⟩ := h
    exact ⟨refusedL rfl, "", editsL.mono fun _ => .inl⟩
  simp only [hl] at editsL grantedL h
  obtain ⟨lockedL, -, -, -⟩ := grantedL node rfl
  have released : (node :: s.locked).erase node = s.locked := List.erase_cons_head _ _
  obtain ⟨kept, -⟩ := loadIdle_spec store s₁ w
  rcases hd : runStoreStep (store.loadIdle w) s₁ with ⟨_ | i, s₂⟩
  · -- the identity is marked running, or cannot be loaded: the lock is let go
    obtain rfl : s₂ = s₁ := by simpa [hd] using kept
    simp only [hd, runStoreStep_underLock, Prod.mk.injEq] at h
    obtain ⟨-, rfl⟩ := h
    exact ⟨by simp [lockedL, released], "",
      (editsL.mono fun _ => .inl).with_locked _⟩
  obtain rfl : s₂ = s₁ := by simpa [hd] using kept
  obtain ⟨lockedM, editsM, -, keptM⟩ := markRunning_spec store s₂ i holder node
  simp only [hd, runStoreStep_underLock] at h
  rcases hm : runStoreStep (store.markRunning i holder node) s₂ with ⟨_ | g, s₃⟩
  · -- the save failed and left the identity's file as it was
    simp only [hm, Prod.mk.injEq] at h lockedM editsM keptM
    obtain ⟨-, rfl⟩ := h
    refine ⟨by simp [lockedM, lockedL, released], fileName i.workerId, ?_⟩
    exact ((editsL.trans ((editsM.mono fun n hn => by simpa using hn).of_kept
      (keptM rfl))).mono fun n hn => by simpa using hn).with_locked _
  · simp [hm] at h

/-- A lock file that is locked refuses the lock, with nothing changed. -/
theorem lock_held {s : StoreState} {w : String} (holder : ProcessId) {node : Nat}
    {bytes : List UInt8} (hentry : s.entryAt (lockName w) = some (.file node bytes))
    (hlocked : node ∈ s.locked) : ∃ e, runStoreStep (store.lock w holder) s = (.error e, s) := by
  have hd := StoreState.dir_of_entryAt hentry
  have hget : s.folder.get? (lockName w) = some (.file node bytes) := hentry
  have usable : s.dir ≠ .blocked := by simp [hd]
  simp [lock, ensureFolder_usable store usable, hget, hlocked, StoreState.with_present hd]

/-- A worker whose lock file is locked is refused, with nothing changed. -/
theorem acquire_held {s : StoreState} {w : String} (holder : ProcessId) {node : Nat}
    {bytes : List UInt8} (hentry : s.entryAt (lockName w) = some (.file node bytes))
    (hlocked : node ∈ s.locked) : ∃ e, runStoreStep (store.acquire w holder) s = (.error e, s) := by
  obtain ⟨e, refused⟩ := store.lock_held holder hentry hlocked
  exact ⟨e, by simp [acquire, refused]⟩

/-- **Clearing a guard's flag** always succeeds, keeps the locks and edits no file but
the identity's file and its temporary file.  When the identity's file is there and its
temporary name is no subdirectory, the file then holds the identity as not running,
under no process. -/
theorem clearRunning_spec (s : StoreState) (g : RunningGuard) :
    let out := runStoreStep (store.clearRunning g) s
    out.1 = .ok () ∧ out.2.locked = s.locked ∧
    s.EditsOnly (fun n => n = tempName (fileName g.identity.workerId) ∨
      n = fileName g.identity.workerId) out.2 ∧
    ∀ node bytes, s.entryAt (fileName g.identity.workerId) = some (.file node bytes) →
      s.entryAt (tempName (fileName g.identity.workerId)) ≠ some .dir →
      out.2.Stores { g.identity with running := false, pid := none } := by
  simp only [clearRunning, runStoreStep_bind, runStoreStep_get]
  -- without the identity's file nothing is saved
  have skipped : (∀ node bytes, s.entryAt (fileName g.identity.workerId) ≠
      some (.file node bytes)) →
      let out := runStoreStep (pure () : StoreM Unit) s
      out.1 = .ok () ∧ out.2.locked = s.locked ∧
      s.EditsOnly (fun n => n = tempName (fileName g.identity.workerId) ∨
        n = fileName g.identity.workerId) out.2 ∧
      ∀ node bytes, s.entryAt (fileName g.identity.workerId) = some (.file node bytes) →
        s.entryAt (tempName (fileName g.identity.workerId)) ≠ some .dir →
        out.2.Stores { g.identity with running := false, pid := none } :=
    fun none => ⟨rfl, rfl, .refl, fun node bytes h => absurd h (none node bytes)⟩
  split
  next f hd =>
    split
    next present =>
      -- the file is there: it is saved, and a failure to save is ignored
      obtain ⟨lockedS, editsS, storedS, -, succeeds⟩ :=
        save_spec store s { g.identity with running := false, pid := none }
      rcases hs : runStoreStep (store.save { g.identity with running := false, pid := none }) s
        with ⟨r, s₃⟩
      simp only [hs] at lockedS editsS storedS succeeds
      have done : runStoreStep (tryCatch (store.save { g.identity with running := false, pid := none })
          fun _ => pure ()) s = (.ok (), s₃) := by
        rcases r with _ | _ <;> simp [hs]
      simp only [done, lockedS, true_and]
      refine ⟨editsS.mono fun n hn => by simpa using hn, fun node bytes h htemp => ?_⟩
      exact (storedS (succeeds (by simp [hd]) htemp (by simp [h]))).1
    next absent =>
      refine skipped fun node bytes h => absent ?_
      simp [StoreState.entryAt, StoreState.folder, hd] at h
      simp [h]
  next hd =>
    refine skipped fun node bytes h => ?_
    exact hd _ (StoreState.dir_of_entryAt h)

/-- **Letting a guard go** always succeeds: the identity's flag is cleared, then the lock
is given up, and no file changes but the identity's file and its temporary file.  When
the identity's file is there and its temporary name is no subdirectory, the file then
holds the identity as not running, under no process. -/
theorem release_spec (s : StoreState) (g : RunningGuard) :
    let out := runStoreStep (store.release g) s
    out.1 = .ok () ∧ out.2.locked = s.locked.erase g.lockNode ∧
    s.EditsOnly (fun n => n = tempName (fileName g.identity.workerId) ∨
      n = fileName g.identity.workerId) out.2 ∧
    ∀ node bytes, s.entryAt (fileName g.identity.workerId) = some (.file node bytes) →
      s.entryAt (tempName (fileName g.identity.workerId)) ≠ some .dir →
      out.2.Stores { g.identity with running := false, pid := none } := by
  obtain ⟨cleared, locked, edits, stored⟩ := store.clearRunning_spec s g
  simp only [release, runStoreStep_bind]
  rcases hc : runStoreStep (store.clearRunning g) s with ⟨r, s₁⟩
  simp only [hc] at cleared locked edits stored
  subst cleared
  exact ⟨rfl, by simp [locked], edits.with_locked _, stored⟩

end IdentityStore

/-! ## Guards leave the server alone -/

/-- A store step that leaves the queue server as it was, whatever its result. -/
def StoreM.KeepsServer {α : Type} (m : StoreM α) : Prop :=
  ∀ s, (runStoreStep m s).2.server = s.server

namespace StoreM.KeepsServer

variable {α β : Type}

theorem of_pure (a : α) : (pure a : StoreM α).KeepsServer := fun _ => rfl

theorem of_throw (e : WorkerError) : (throw e : StoreM α).KeepsServer := fun _ => rfl

theorem of_get : (get : StoreM StoreState).KeepsServer := fun _ => rfl

theorem of_modify {g : StoreState → StoreState} (hg : ∀ s, (g s).server = s.server) :
    (modify g : StoreM Unit).KeepsServer := hg

theorem of_bind {m : StoreM α} {f : α → StoreM β} (hm : m.KeepsServer)
    (hf : ∀ a, (f a).KeepsServer) : (m >>= f).KeepsServer := by
  intro s
  rw [runStoreStep_bind]
  rcases h : runStoreStep m s with ⟨_ | a, s'⟩
  · rw [← hm s, h]
  · rw [hf a s', ← hm s, h]

theorem of_tryCatch {m : StoreM α} {handle : WorkerError → StoreM α} (hm : m.KeepsServer)
    (handle_keeps : ∀ e, (handle e).KeepsServer) : (tryCatch m handle).KeepsServer := by
  intro s
  rw [runStoreStep_tryCatch]
  rcases h : runStoreStep m s with ⟨_ | a, s'⟩
  · rw [handle_keeps _ s', ← hm s, h]
  · rw [← hm s, h]

end StoreM.KeepsServer

namespace IdentityStore

variable (store : IdentityStore)

open StoreM.KeepsServer

theorem setFolder_keepsServer (f : Folder) : (setFolder f).KeepsServer := fun _ => rfl

theorem ensureFolder_keepsServer : store.ensureFolder.KeepsServer := by
  unfold ensureFolder
  refine of_bind of_get fun s => ?_
  split
  · exact of_bind (of_modify fun _ => rfl) fun _ => of_pure _
  · exact of_throw _
  · exact of_pure _

theorem lock_keepsServer (w : String) (holder : ProcessId) :
    (store.lock w holder).KeepsServer := by
  unfold lock
  refine of_bind (store.ensureFolder_keepsServer) fun f => ?_
  dsimp only
  -- the lock file is found, refused or made; the same steps follow each
  split
  rotate_left 2
  split
  all_goals
    refine of_bind (fun _ => rfl) fun x => ?_
    refine of_bind (setFolder_keepsServer _) fun _ => of_bind of_get fun l => ?_
    split
    · refine of_bind (of_throw _) fun _ => ?_
      split <;> exact of_bind (fun _ => rfl) fun _ => of_bind (of_modify fun _ => rfl) fun _ => of_pure _
    · split <;> exact of_bind (fun _ => rfl) fun _ => of_bind (of_modify fun _ => rfl) fun _ => of_pure _

theorem save_keepsServer (i : Identity) : (store.save i).KeepsServer := by
  unfold save
  refine of_bind (store.ensureFolder_keepsServer) fun f => ?_
  dsimp only
  split
  · exact of_throw _
  · refine of_bind (setFolder_keepsServer _) fun _ => ?_
    split
    · exact of_throw _
    · exact setFolder_keepsServer _

theorem underLock_keepsServer {α : Type} (node : Nat) {m : StoreM α} (hm : m.KeepsServer) :
    (underLock node m).KeepsServer :=
  of_tryCatch hm fun _ => of_bind (of_modify fun _ => rfl) fun _ => of_throw _

theorem loadIdle_keepsServer (w : String) : (store.loadIdle w).KeepsServer := fun s =>
  congrArg StoreState.server (store.loadIdle_spec s w).1

theorem markRunning_keepsServer (i : Identity) (holder : ProcessId) (node : Nat) :
    (store.markRunning i holder node).KeepsServer :=
  of_bind (store.save_keepsServer _) fun _ => of_pure _

/-- Taking a guard is no request of the server. -/
theorem acquire_keepsServer (w : String) (holder : ProcessId) :
    (store.acquire w holder).KeepsServer :=
  of_bind (store.lock_keepsServer w holder) fun node =>
    of_bind (underLock_keepsServer node (store.loadIdle_keepsServer w)) fun i =>
      underLock_keepsServer node (store.markRunning_keepsServer i holder node)

theorem clearRunning_keepsServer (g : RunningGuard) : (store.clearRunning g).KeepsServer := by
  unfold clearRunning
  refine of_bind of_get fun s => ?_
  dsimp only
  -- whether the file is there, it is saved or not
  have saved : ∀ present : Bool, (if present = true then
      tryCatch (store.save { g.identity with running := false, pid := none }) (fun _ => pure ())
      else pure ()).KeepsServer
    | true => of_tryCatch (store.save_keepsServer _) fun _ => of_pure _
    | false => of_pure _
  split
  · exact saved _
  · exact saved _

/-- Letting a guard go is no request of the server. -/
theorem release_keepsServer (g : RunningGuard) : (store.release g).KeepsServer :=
  of_bind (store.clearRunning_keepsServer g) fun _ => of_modify fun _ => rfl

end IdentityStore

end BuildWorker
