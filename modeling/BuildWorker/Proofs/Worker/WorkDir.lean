import BuildWorker.Worker.Build
import Mathlib
/-!
# Where a job is built

A job is built in `<build dir>/<worker>/<job>` (`Worker.workDir`): the two names are made
safe by `pathComponent`, and the path is then read as the operating system reads it
(`resolveNames`).  The worker removes that directory before a build, to start from
nothing, and after it.

The main statement, `Worker.workDir_confined`, says what this comes to when neither name
is empty, `.` or `..` (`IsPlainName`).  The directory is then the build directory
followed by the two safe names, so it lies below the worker's own directory, which lies
directly below the build directory.  Removing it leaves every path outside it as it was.
The directories of two jobs are apart unless their safe names agree
(`Worker.workDir_not_prefix`); a worker whose safe name differs has its jobs outside this
worker's directory, so removing this job's directory keeps their files
(`Worker.remove_workDir_keeps_other`).

The condition cannot be dropped.  Making a name safe keeps its dots, so a job named `..`
is built in the build directory itself (`Worker.workDir_dotdot_job`), and removing its
directory removes the builds of every worker (`dotdot_job_builds_in_build_dir`).  Nor do
different workers always get different directories: `a/b` and `a_b` are both made
`a_b` (`pathComponent_slash_collides`).
-/

set_option autoImplicit false

namespace BuildWorker

/-- A name the operating system reads as a place of its own below a directory. -/
def IsPlainName (s : String) : Prop := s ≠ "" ∧ s ≠ "." ∧ s ≠ ".."

/-! ## Reading names -/

theorem stepName_plain {names : List String} {part : String} (h : IsPlainName part) :
    stepName names part = names ++ [part] := by
  obtain ⟨hne, hdot, hdots⟩ := h
  have hempty : part.isEmpty = false := Bool.eq_false_iff.mpr (mt String.isEmpty_iff.mp hne)
  simp [stepName, hempty, hdot, hdots]

theorem foldl_stepName_plain (names : List String) {parts : List String}
    (h : ∀ part ∈ parts, IsPlainName part) : parts.foldl stepName names = names ++ parts := by
  induction parts generalizing names with
  | nil => simp
  | cons part rest ih =>
      rw [List.foldl_cons, stepName_plain (h part List.mem_cons_self),
        ih _ fun q hq => h q (List.mem_cons_of_mem _ hq), List.append_assoc, List.singleton_append]

/-- Names that start elsewhere than the scratch directory's host path are not read in it. -/
theorem take_scratchHost_ne {names : List String} (hne : names ≠ [])
    (hhost : names.head? ≠ scratchHost.head?) : names.take scratchHost.length ≠ scratchHost := by
  obtain ⟨first, rest, rfl⟩ := List.exists_cons_of_ne_nil hne
  intro heq
  apply hhost
  simpa [scratchHost] using congrArg List.head? heq

/-- Reading parts of a path comes to applying them one by one, when that ends elsewhere
than the scratch directory's host path. -/
theorem resolveNames_eq_foldl {start parts : List String}
    (hne : parts.foldl stepName start ≠ [])
    (hhost : (parts.foldl stepName start).head? ≠ scratchHost.head?) :
    resolveNames start parts = parts.foldl stepName start := by
  unfold resolveNames
  simp only [beq_iff_eq, take_scratchHost_ne hne hhost, if_false]

/-- **Plain names go down one directory each**, from any place that does not start where
the scratch directory's host path does. -/
theorem resolveNames_plain {start parts : List String} (hstart : start ≠ [])
    (hhost : start.head? ≠ scratchHost.head?) (h : ∀ part ∈ parts, IsPlainName part) :
    resolveNames start parts = start ++ parts := by
  have hfold := foldl_stepName_plain start h
  have hne : start ++ parts ≠ [] := by simp [hstart]
  have hhead : (start ++ parts).head? = start.head? := by
    obtain ⟨first, rest, rfl⟩ := List.exists_cons_of_ne_nil hstart
    rfl
  rw [resolveNames_eq_foldl (by rw [hfold]; exact hne) (by rw [hfold, hhead]; exact hhost), hfold]

/-- `..` after a plain name goes back to where the name started. -/
theorem resolveNames_plain_dotdot {start : List String} {part : String} (hstart : start ≠ [])
    (hhost : start.head? ≠ scratchHost.head?) (h : IsPlainName part) :
    resolveNames start [part, ".."] = start := by
  -- one name below a place that is not the root is never the scratch directory alone
  have hlong : start ++ [part] ≠ [scratchRoot] := by
    intro heq
    have hlen := congrArg List.length heq
    have hpos : 0 < start.length := List.length_pos_iff.mpr hstart
    simp only [List.length_append, List.length_singleton] at hlen
    omega
  have hup : stepName (start ++ [part]) ".." = (start ++ [part]).dropLast := by
    have hdots : ("..".isEmpty || ".." == ".") = false := by decide
    simp only [stepName, hdots, Bool.false_eq_true, if_false, beq_self_eq_true, if_true,
      beq_iff_eq, hlong]
  have hfold : [part, ".."].foldl stepName start = start := by
    rw [List.foldl_cons, List.foldl_cons, List.foldl_nil, stepName_plain h, hup,
      List.dropLast_concat]
  rw [resolveNames_eq_foldl (by rw [hfold]; exact hstart) (by rw [hfold]; exact hhost), hfold]

/-! ## Safe names -/

/-- Making a name safe gives only dots where the name had only dots. -/
theorem pathComponent_eq_dots {s : String} {n : Nat}
    (h : pathComponent s = String.ofList (List.replicate n '.')) :
    s = String.ofList (List.replicate n '.') := by
  have hchars := congrArg String.toList h
  rw [pathComponent, String.toList_map, String.toList_ofList] at hchars
  have hlen : s.toList.length = n := by simpa using congrArg List.length hchars
  subst hlen
  -- a character made safe is itself or `_`, so only a dot becomes a dot
  have hdots : ∀ c ∈ s.toList, c = '.' := by
    intro c hc
    have hc' := List.map_eq_replicate_iff.mp hchars c hc
    split at hc'
    · exact hc'
    · exact absurd hc' (by decide)
  rw [← List.eq_replicate_iff.mpr ⟨rfl, hdots⟩, String.ofList_toList]

/-- A plain name stays plain when made safe. -/
theorem IsPlainName.pathComponent {s : String} (h : IsPlainName s) :
    IsPlainName (pathComponent s) := by
  obtain ⟨hne, hdot, hdots⟩ := h
  have h0 : ("" : String) = String.ofList (List.replicate 0 '.') := by decide
  have h1 : ("." : String) = String.ofList (List.replicate 1 '.') := by decide
  have h2 : (".." : String) = String.ofList (List.replicate 2 '.') := by decide
  refine ⟨?_, ?_, ?_⟩
  · rw [h0]
    exact fun heq => hne (h0 ▸ pathComponent_eq_dots heq)
  · rw [h1]
    exact fun heq => hdot (h1 ▸ pathComponent_eq_dots heq)
  · rw [h2]
    exact fun heq => hdots (h2 ▸ pathComponent_eq_dots heq)

/-- Making names safe loses the difference between a slash and an underscore. -/
theorem pathComponent_slash_collides : pathComponent "a/b" = pathComponent "a_b" := by
  cbv

/-! ## Removing a directory -/

/-- Keeping the entries whose path passes a test keeps the lookup of a path that passes it. -/
theorem lookup_filter_of_key {entries : List (List String × FileNode)}
    {keep : List String → Bool} {p : List String} (hp : keep p = true) :
    (entries.filter fun e => keep e.1).lookup p = entries.lookup p := by
  induction entries with
  | nil => rfl
  | cons e rest ih =>
      obtain ⟨q, node⟩ := e
      by_cases hq : keep q = true
      · simp only [List.filter_cons, hq, if_true, List.lookup_cons, ih]
      · -- a path that fails the test is not the one looked up
        have hne : (p == q) = false := by
          rw [beq_eq_false_iff_ne]
          rintro rfl
          exact hq hp
        simp only [List.filter_cons, hq, Bool.false_eq_true, if_false, List.lookup_cons, hne, ih]

/-- **Removing a path leaves every path outside it as it was.** -/
theorem FileTree.remove_entry?_outside {t t' : FileTree} {dir : List String} {emptyDirs : Bool}
    (h : t.remove dir true emptyDirs = .ok t') {p : List String} (hp : ¬ dir <+: p) :
    t'.entry? p = t.entry? p := by
  have hout : (!(p.take dir.length == dir)) = true := by
    rw [Bool.not_eq_true', beq_eq_false_iff_ne]
    exact fun heq => hp (List.prefix_iff_eq_take.mpr heq.symm)
  unfold FileTree.remove at h
  split at h
  · exact absurd h (by simp)
  · split at h
    · exact absurd h (by simp)
    · simp only [Bool.true_or, if_true, Except.ok.injEq] at h
      subst h
      -- the root is never below a path that is not the root
      cases p with
      | nil => rfl
      | cons name rest =>
          simp only [FileTree.entry?, List.isEmpty_cons, Bool.false_eq_true, if_false]
          exact @lookup_filter_of_key t.nodes (fun q => !(q.take dir.length == dir)) _ hout
  · simp only [Except.ok.injEq] at h
    subst h
    have hne : (p != dir) = true := by
      simp only [bne_iff_ne, ne_eq]
      rintro rfl
      exact hp (List.prefix_refl p)
    cases p with
    | nil => rfl
    | cons name rest =>
        simp only [FileTree.entry?, List.isEmpty_cons, Bool.false_eq_true, if_false]
        exact @lookup_filter_of_key t.nodes (fun q => q != dir) _ hne

/-! ## The working directory of a job -/

section
variable (w : Worker) (job : Job)

/-- A job with plain names is built in the build directory, then its worker's name, then
its own. -/
theorem Worker.workDir_plain (hroot : w.buildRoot ≠ [])
    (hhost : w.buildRoot.head? ≠ scratchHost.head?) (hworker : IsPlainName w.identity.workerId)
    (hjob : IsPlainName job.id) :
    w.workDir job = (w.buildRoot ++ [pathComponent w.identity.workerId]) ++ [pathComponent job.id] := by
  rw [Worker.workDir, Worker.workNames, resolveNames_plain hroot hhost, List.append_assoc]
  · rfl
  · intro part hpart
    simp only [List.mem_cons, List.mem_nil_iff, or_false] at hpart
    rcases hpart with rfl | rfl
    · exact hworker.pathComponent
    · exact hjob.pathComponent

/-- The job directories of a worker whose safe name differs lie outside this worker's
directory: past the shared build directory, the first names are the two safe names. -/
theorem Worker.workerDir_not_prefix_other {w' : Worker} {job' : Job} (hroot : w.buildRoot ≠ [])
    (hhost : w.buildRoot.head? ≠ scratchHost.head?) (hsame : w'.buildRoot = w.buildRoot)
    (hworker' : IsPlainName w'.identity.workerId) (hjob' : IsPlainName job'.id)
    (hother : pathComponent w'.identity.workerId ≠ pathComponent w.identity.workerId) :
    ¬ w.buildRoot ++ [pathComponent w.identity.workerId] <+: w'.workDir job' := by
  rw [w'.workDir_plain job' (hsame ▸ hroot) (hsame ▸ hhost) hworker' hjob', hsame,
    List.append_assoc, List.prefix_append_right_inj, List.singleton_append,
    List.singleton_prefix_cons_iff]
  exact fun heq => hother heq.symm

/-- Removing a job's directory leaves every path in the job directories of a worker whose
safe name differs as it was. -/
theorem Worker.remove_workDir_keeps_other {w' : Worker} {job' : Job} (hroot : w.buildRoot ≠ [])
    (hhost : w.buildRoot.head? ≠ scratchHost.head?) (hsame : w'.buildRoot = w.buildRoot)
    (hworker : IsPlainName w.identity.workerId) (hjob : IsPlainName job.id)
    (hworker' : IsPlainName w'.identity.workerId) (hjob' : IsPlainName job'.id)
    (hother : pathComponent w'.identity.workerId ≠ pathComponent w.identity.workerId)
    {files t : FileTree} (h : files.remove (w.workDir job) true false = .ok t) {p : List String}
    (hp : w'.workDir job' <+: p) : t.entry? p = files.entry? p := by
  refine FileTree.remove_entry?_outside h fun hjobp => ?_
  have hdir := w.workDir_plain job hroot hhost hworker hjob
  have hdir' := w'.workDir_plain job' (hsame ▸ hroot) (hsame ▸ hhost) hworker' hjob'
  -- both job directories start the path and are equally long, so they are one directory
  have hjobs : w.workDir job <+: w'.workDir job' :=
    List.prefix_of_prefix_length_le hjobp hp (by simp [hdir, hdir', hsame])
  exact w.workerDir_not_prefix_other hroot hhost hsame hworker' hjob' hother
    ((hdir ▸ List.prefix_append _ _).trans hjobs)

/-- **A job with plain names is built in its own place below its worker's directory**, and
removing that place leaves everything outside it as it was.  A worker whose safe name
differs has its jobs outside this worker's directory, so their files survive the removal. -/
theorem Worker.workDir_confined (hroot : w.buildRoot ≠ [])
    (hhost : w.buildRoot.head? ≠ scratchHost.head?) (hworker : IsPlainName w.identity.workerId)
    (hjob : IsPlainName job.id) :
    w.workDir job =
        (w.buildRoot ++ [pathComponent w.identity.workerId]) ++ [pathComponent job.id] ∧
      (∀ (files t : FileTree), files.remove (w.workDir job) true false = .ok t →
        ∀ p, ¬ w.workDir job <+: p → t.entry? p = files.entry? p) ∧
      ∀ (w' : Worker) (job' : Job), w'.buildRoot = w.buildRoot →
        IsPlainName w'.identity.workerId → IsPlainName job'.id →
        pathComponent w'.identity.workerId ≠ pathComponent w.identity.workerId →
        ¬ w.buildRoot ++ [pathComponent w.identity.workerId] <+: w'.workDir job' ∧
        ∀ (files t : FileTree), files.remove (w.workDir job) true false = .ok t →
          ∀ p, w'.workDir job' <+: p → t.entry? p = files.entry? p :=
  ⟨w.workDir_plain job hroot hhost hworker hjob,
    fun _ _ h _ hp => FileTree.remove_entry?_outside h hp,
    fun _ _ hsame hworker' hjob' hother =>
      ⟨w.workerDir_not_prefix_other hroot hhost hsame hworker' hjob' hother,
        fun _ _ h _ hp => w.remove_workDir_keeps_other job hroot hhost hsame hworker hjob
          hworker' hjob' hother h hp⟩⟩

/-- A job named `..` is built in the build directory itself. -/
theorem Worker.workDir_dotdot_job (hroot : w.buildRoot ≠ [])
    (hhost : w.buildRoot.head? ≠ scratchHost.head?) (hworker : IsPlainName w.identity.workerId)
    (hjob : job.id = "..") :
    w.workDir job = w.buildRoot := by
  have hsafe : pathComponent ".." = ".." := by cbv
  rw [Worker.workDir, Worker.workNames, hjob, hsafe]
  exact resolveNames_plain_dotdot hroot hhost hworker.pathComponent

/-- Two jobs whose names differ once made safe are built apart: neither directory holds
the other. -/
theorem Worker.workDir_not_prefix {w' : Worker} {job' : Job} (hroot : w.buildRoot ≠ [])
    (hhost : w.buildRoot.head? ≠ scratchHost.head?) (hsame : w'.buildRoot = w.buildRoot)
    (hworker : IsPlainName w.identity.workerId) (hjob : IsPlainName job.id)
    (hworker' : IsPlainName w'.identity.workerId) (hjob' : IsPlainName job'.id)
    (hdiff : w.workNames job ≠ w'.workNames job') :
    ¬ w.workDir job <+: w'.workDir job' := by
  rw [w.workDir_plain job hroot hhost hworker hjob,
    w'.workDir_plain job' (hsame ▸ hroot) (hsame ▸ hhost) hworker' hjob', hsame]
  intro hprefix
  -- both paths have the same length, so one holding the other means they are equal
  have heq := hprefix.eq_of_length (by simp)
  simp only [List.append_assoc, List.append_cancel_left_eq, List.singleton_append] at heq
  exact hdiff (by simpa [Worker.workNames] using heq)

end

/-- The build directory of the runs, `$TMP/builds`, as names. -/
theorem resolvePath_scratch_builds :
    resolvePath [scratchRoot] "$TMP/builds" = [scratchRoot, "builds"] := by
  have hsplit : ("$TMP/builds" : String).splitOn "/" = ["$TMP", "builds"] := by
    simp +decide [String.splitOn, String.splitOnAux]
  simp only [resolvePath, hsplit]
  cbv

theorem Worker.workDir_confined_default_layout :
    let w : Worker :=
      { identity := { workerId := "worker-1", username := "alice", queue := "default",
                      platform := "linux-64", hostname := "test-host", dist := "test-1" },
        options := { pollInterval := 10, timeout := 60000, iotimeout := 30000,
                     logFlushInterval := 20, buildDir := "$TMP/builds" } }
    let job : Job := { id := "j1", name := "build" }
    w.workDir job =
        (w.buildRoot ++ [pathComponent w.identity.workerId]) ++ [pathComponent job.id] ∧
      (∀ (files t : FileTree), files.remove (w.workDir job) true false = .ok t →
        ∀ p, ¬ w.workDir job <+: p → t.entry? p = files.entry? p) ∧
      ∀ (w' : Worker) (job' : Job), w'.buildRoot = w.buildRoot →
        IsPlainName w'.identity.workerId → IsPlainName job'.id →
        pathComponent w'.identity.workerId ≠ pathComponent w.identity.workerId →
        ¬ w.buildRoot ++ [pathComponent w.identity.workerId] <+: w'.workDir job' ∧
        ∀ (files t : FileTree), files.remove (w.workDir job) true false = .ok t →
          ∀ p, w'.workDir job' <+: p → t.entry? p = files.entry? p :=
  Worker.workDir_confined _ _
    (by rw [Worker.buildRoot, resolvePath_scratch_builds]; decide)
    (by rw [Worker.buildRoot, resolvePath_scratch_builds]; decide)
    ⟨by decide, by decide, by decide⟩ ⟨by decide, by decide, by decide⟩

/-- A job named `..` is built in the build directory, and removing its directory removes
the directory of another worker. -/
theorem dotdot_job_builds_in_build_dir :
    let w : Worker :=
      { identity := { workerId := "worker-1", username := "alice", queue := "default",
                      platform := "linux-64", hostname := "test-host", dist := "test-1" },
        options := { pollInterval := 10, timeout := 60000, iotimeout := 30000,
                     logFlushInterval := 20, buildDir := "$TMP/builds" } }
    let job : Job := { id := "..", name := "build" }
    let files : FileTree :=
      ⟨[([scratchRoot], .dir), ([scratchRoot, "builds"], .dir),
        ([scratchRoot, "builds", "worker-2"], .dir)]⟩
    w.workDir job = [scratchRoot, "builds"] ∧
      (files.remove (w.workDir job) true false).map
          (fun t => t.entry? [scratchRoot, "builds", "worker-2"]) = .ok none := by
  intro w job files
  have hdir : w.workDir job = [scratchRoot, "builds"] := by
    simp only [w, job, Worker.workDir, Worker.buildRoot, resolvePath_scratch_builds]
    cbv
  refine ⟨hdir, ?_⟩
  rw [hdir]
  cbv

end BuildWorker
