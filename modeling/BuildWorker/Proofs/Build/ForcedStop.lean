import BuildWorker.Worker.Build
/-!
# How a build stopped by force is reported

A build that is stopped (by its time limits, by a request through its log, or by the
worker shutting down) is killed, and the exit code that is then collected is the one
the shell itself reports.  When the shell was still running, that is the code of a kill
(137) and the build is an error.  But the shell may already have exited on its own
while something it started still holds the output open: then the code collected is
the shell's own, and a shell that exited with 0 or 12 makes the forced stop a success
or a failure.

`Worker.supervision` is the supervised run a build makes, as `Worker.execute` makes
it, and `Worker.build_outcome` reads the reported outcome off it.  The main statement,
`Worker.build_is_error_iff`, says exactly when a build is reported as an error: when it
could not run at all, when it exited on its own with a code other than 0 and 12, or
when it was stopped by force and the shell had not already exited on its own with 0
or 12 before the stop.
-/

set_option autoImplicit false

namespace BuildWorker

/-! ## The code collected after a stop -/

/-- A supervision that stopped reports the shell's own code only if the shell exited
before the stop. -/
theorem Supervised.ofStop_exitCode_of_forced {σ : Type} (out : OutputSink σ) (limits : Limits)
    (trace : Shell.Trace) (finish : Option Nat) (horizon : Nat) (w : Watch σ)
    (stop : Option (Termination × Nat))
    (forced : (Supervised.ofStop out limits trace finish horizon w stop).termination ≠ .exited) :
    (Supervised.ofStop out limits trace finish horizon w stop).exitCode =
      match trace.exit with
      | some (e, code) =>
          if e < (Supervised.ofStop out limits trace finish horizon w stop).endTime then code
          else 137
      | none => 137 := by
  cases stop with
  | some stopped => rfl
  | none => exact absurd rfl forced

/-- **A build stopped by force reports the shell's own exit code if the shell had
already exited by then, and that of a kill otherwise.** -/
theorem supervise_exitCode_of_forced {σ : Type} (out : OutputSink σ) (sink : σ) (limits : Limits)
    (cancelAt : Option Nat) (trace : Shell.Trace)
    (forced : (supervise out sink limits cancelAt trace).termination ≠ .exited) :
    (supervise out sink limits cancelAt trace).exitCode =
      match trace.exit with
      | some (e, code) => if e < (supervise out sink limits cancelAt trace).endTime then code else 137
      | none => 137 :=
  Supervised.ofStop_exitCode_of_forced _ _ _ _ _ _ _ forced

/-! ## The outcome a build reports -/

/-- A status is an error exactly for codes other than 0 and 12. -/
theorem Outcome.ofExitCode_status_eq_error (code : Int) :
    (Outcome.ofExitCode code).status = .error ↔ code ≠ 0 ∧ code ≠ 12 := by
  unfold Outcome.ofExitCode exitSuccess exitFailure
  by_cases h0 : code = 0
  · simp [h0]
  · by_cases h12 : code = 12 <;> simp [h0, h12]

/-- An error is always a failed build. -/
theorem Outcome.ofExitCode_failed_of_error {code : Int}
    (h : (Outcome.ofExitCode code).status = .error) : (Outcome.ofExitCode code).failed = true := by
  unfold Outcome.ofExitCode at h ⊢
  simp only at h ⊢
  rw [h]
  rfl

/-- The supervised run a job's build makes from a worker state, with the shell's run
it watched; none when the build's working directory cannot be prepared. -/
def Worker.supervision (w : Worker) (job : Job) (shutdownAt : Option Nat) (s : WorkerState) :
    Option (Supervised LogWorld × Shell.Trace) :=
  let dir := w.workDir job
  match prepareWorkDir s.files dir with
  | .error _ => none
  | .ok files =>
      let log : LogWorld := { log := { jobId := job.id }, transport := s.transport, server := s.server }
      let log := log.writeText (w.header job (w.workPath job))
      let (staging, log, files) := w.stageSource job dir log files
      let ctx : ScriptContext :=
        ⟨w.identity.queueName, w.identity.workerId, staging, w.options.uploadCommand⟩
      let script := generateScript job ctx
      let scriptPath := dir ++ [scriptName]
      let scriptShown := joinPath (w.workPath job) scriptName
      let files := (files.write scriptPath (Text.encode script) false).toOption.getD files
      let limits := w.limits job
      let cancelAt := shutdownAt.map (· - s.clock)
      let horizon := match cancelAt with
        | some t => min t (limits.timeoutMs * 1000)
        | none => limits.timeoutMs * 1000
      let setup : Shell.RunSetup :=
        { script, scriptName := scriptShown, messagePrefix := scriptShown,
          cwd := dir, files, horizon, commandLine := false }
      let trace := setup.run
      some (supervise (LogWorld.sink w.options.logFlushInterval) log limits cancelAt trace, trace)

/-- The outcome a build reports is read off its supervised exit code, or is an error
when the build could not run. -/
theorem Worker.build_outcome (w : Worker) (job : Job) (shutdownAt : Option Nat)
    (s : WorkerState) :
    ((w.build job shutdownAt).run s).1 =
      match w.supervision job shutdownAt s with
      | none => Outcome.errored
      | some (run, _) => Outcome.ofExitCode run.exitCode := by
  unfold Worker.build Worker.execute Worker.supervision
  -- the journal entry written first changes nothing the build reads
  cases hprep : prepareWorkDir s.files (w.workDir job) with
  | error e =>
      simp [hprep, WorkerState.record]
      rfl
  | ok files =>
      simp [hprep, WorkerState.record]
      rfl

/-- The run a build makes is a supervision, so a forced stop reports the shell's own
code only if the shell had exited before the stop. -/
theorem Worker.supervision_exitCode_of_forced {w : Worker} {job : Job} {shutdownAt : Option Nat}
    {s : WorkerState} {run : Supervised LogWorld} {trace : Shell.Trace}
    (h : w.supervision job shutdownAt s = some (run, trace)) (forced : run.termination ≠ .exited) :
    run.exitCode =
      match trace.exit with
      | some (e, code) => if e < run.endTime then code else 137
      | none => 137 := by
  unfold Worker.supervision at h
  cases hprep : prepareWorkDir s.files (w.workDir job) with
  | error e => simp [hprep] at h
  | ok files =>
      simp only [hprep, Option.some.injEq, Prod.mk.injEq] at h
      obtain ⟨rfl, rfl⟩ := h
      exact supervise_exitCode_of_forced _ _ _ _ _ forced

/-- **When a build is reported as an error.**  It is, exactly when it could not run,
or it exited on its own with a code other than 0 and 12, or it was stopped by force and
the shell had not already exited on its own, with 0 or 12, before the stop.  A forced
stop of a shell that had exited with 0 or 12 while something it started kept the
output open is reported as a success or a failure. -/
theorem Worker.build_is_error_iff (w : Worker) (job : Job) (shutdownAt : Option Nat)
    (s : WorkerState) :
    (((w.build job shutdownAt).run s).1.status = .error ∧
        ((w.build job shutdownAt).run s).1.failed = true) ↔
      match w.supervision job shutdownAt s with
      | none => True
      | some (run, trace) =>
          if run.termination = .exited then run.exitCode ≠ 0 ∧ run.exitCode ≠ 12
          else ¬ ∃ e code, trace.exit = some (e, code) ∧ e < run.endTime ∧
            (code = 0 ∨ code = 12) := by
  rw [Worker.build_outcome]
  cases hsup : w.supervision job shutdownAt s with
  | none => simp [Outcome.errored]
  | some supervised =>
      obtain ⟨run, trace⟩ := supervised
      simp only
      -- an error is always failed, so only the status matters
      have herror : (Outcome.ofExitCode run.exitCode).status = .error ↔
          (run.exitCode : Int) ≠ 0 ∧ (run.exitCode : Int) ≠ 12 :=
        Outcome.ofExitCode_status_eq_error _
      rw [and_iff_left_of_imp Outcome.ofExitCode_failed_of_error, herror]
      by_cases hexited : run.termination = .exited
      · simp only [hexited, if_true]
        omega
      · simp only [hexited, if_false]
        rw [Worker.supervision_exitCode_of_forced hsup hexited]
        cases hexit : trace.exit with
        | none => simp
        | some stopped =>
            obtain ⟨e, code⟩ := stopped
            by_cases hbefore : e < run.endTime
            · simp only [hbefore, if_true]
              constructor
              · rintro ⟨h0, h12⟩ ⟨e', code', hsame, -, hcode⟩
                simp only [Option.some.injEq, Prod.mk.injEq] at hsame
                obtain ⟨rfl, rfl⟩ := hsame
                omega
              · intro hnot
                refine ⟨?_, ?_⟩ <;> intro hc <;> exact hnot ⟨e, code, rfl, hbefore, by omega⟩
            · simp only [hbefore, if_false]
              constructor
              · rintro - ⟨e', code', hsame, hlt, -⟩
                simp only [Option.some.injEq, Prod.mk.injEq] at hsame
                obtain ⟨rfl, rfl⟩ := hsame
                exact hbefore hlt
              · intro _
                omega

/-- **A forced stop that is reported as a success.**  The shell exits with 0 at once
while something it started keeps the output open: nothing closes, the silence limit
stops the build, and the code collected is the shell's own 0. -/
theorem silence_stop_after_clean_exit_succeeds :
    (supervise ({ write := fun s _ => s, stopRequested := fun _ => false } : OutputSink Unit) ()
        { timeoutMs := 2000, idleMs := 300 } none
        { written := [], exit := some (0, 0), closed := none, files := default }).termination =
      .idleTimeout ∧
    (Outcome.ofExitCode
      (supervise ({ write := fun s _ => s, stopRequested := fun _ => false } : OutputSink Unit) ()
        { timeoutMs := 2000, idleMs := 300 } none
        { written := [], exit := some (0, 0), closed := none, files := default }).exitCode).status =
      .success := by
  -- the moments are the three polls, already in order
  simp only [supervise]
  rw [List.mergeSort_of_pairwise]
  · decide +kernel
  · decide +kernel

end BuildWorker
