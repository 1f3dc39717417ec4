import BuildWorker.Worker.Build
import BuildWorker.Proofs.Run.Transcript
/-!
# What a build does to the server

A build talks to the queue server only to deliver its output, and all it delivers
names its own job: the waiting jobs, the jobs handed back and the reported builds are
as they were, and the output calls grow by calls for the job
(`MemoryQueue.TakesOutput`).

Each request of the log transport takes output for the log's job
(`LogTransport.send_takesOutput`), and so do the flushes and the closing of a build
log (`LogWorld.Delivers`).  Supervision keeps whatever every write and every periodic
task of its sink keep (`supervise_preserves`), so a whole build takes output for its
job and nothing else (`Worker.build_takesOutput`).
-/

set_option autoImplicit false

namespace BuildWorker

/-! ## Output for one job -/

namespace MemoryQueue

/-- The server took build output for one job and nothing else. -/
structure TakesOutput (jobId : String) (q q' : MemoryQueue) : Prop where
  jobs : q'.jobs = q.jobs
  pushed : q'.pushed = q.pushed
  finished : q'.finished = q.finished
  logs : ∃ calls, q'.logs = q.logs ++ calls ∧ ∀ c ∈ calls, c.jobId = jobId

namespace TakesOutput

theorem refl (jobId : String) (q : MemoryQueue) : TakesOutput jobId q q :=
  ⟨rfl, rfl, rfl, [], by simp, by simp⟩

theorem trans {jobId : String} {q₁ q₂ q₃ : MemoryQueue} (h₁ : TakesOutput jobId q₁ q₂)
    (h₂ : TakesOutput jobId q₂ q₃) : TakesOutput jobId q₁ q₃ := by
  obtain ⟨calls₁, hlogs₁, hjob₁⟩ := h₁.logs
  obtain ⟨calls₂, hlogs₂, hjob₂⟩ := h₂.logs
  refine ⟨h₂.jobs.trans h₁.jobs, h₂.pushed.trans h₁.pushed, h₂.finished.trans h₁.finished,
    calls₁ ++ calls₂, by rw [hlogs₂, hlogs₁, List.append_assoc], fun c hc => ?_⟩
  rcases List.mem_append.1 hc with hc | hc
  · exact hjob₁ c hc
  · exact hjob₂ c hc

end TakesOutput

theorem recordLog_takesOutput (s : MemoryQueue) (jobId text : String) (tags : Option LogTags) :
    TakesOutput jobId s (s.recordLog jobId text tags).2 := by
  unfold recordLog
  split
  · exact ⟨rfl, rfl, rfl, [], by simp, by simp⟩
  · exact ⟨rfl, rfl, rfl, [⟨jobId, text, tags⟩], rfl, by simp⟩

theorem logTagged_takesOutput (s : MemoryQueue) (jobId text : String) (tags : LogTags) :
    TakesOutput jobId s (s.logTagged jobId text tags).2 := by
  unfold logTagged
  dsimp only
  split
  · exact ⟨rfl, rfl, rfl, [], by simp, by simp⟩
  · -- the count of tagged attempts is no record of the queue
    have h := recordLog_takesOutput { s with taggedAttempts := s.taggedAttempts + 1 } jobId text
      (some tags)
    exact ⟨h.jobs, h.pushed, h.finished, h.logs⟩

end MemoryQueue

open MemoryQueue

/-- Every send, tagged or plain, takes output for the job it names. -/
theorem LogTransport.send_takesOutput (t : LogTransport) (server : MemoryQueue)
    (jobId text : String) (sectionName : Option String) :
    TakesOutput jobId server (t.send server jobId text sectionName).2.2 := by
  unfold LogTransport.send LogTransport.sendVia
  simp only [MemoryQueue.logEndpoints]
  split
  · have htagged := server.logTagged_takesOutput jobId text (sectionTags sectionName)
    rcases hans : server.logTagged jobId text (sectionTags sectionName) with ⟨r, q⟩
    rw [hans] at htagged
    -- the tagged answer decides whether plain output follows
    rcases r with (_ | _ | _ | _ | _ | _) | stop
    case error.notFound detail =>
      dsimp only
      split
      · exact htagged
      · exact htagged.trans (q.recordLog_takesOutput jobId text none)
    all_goals exact htagged
  · exact server.recordLog_takesOutput jobId text none

/-! ## A build log delivering -/

/-- A build log that went on delivering output for its own job. -/
structure LogWorld.Delivers (w w' : LogWorld) : Prop where
  jobId : w'.log.jobId = w.log.jobId
  server : TakesOutput w.log.jobId w.server w'.server

namespace LogWorld.Delivers

theorem refl (w : LogWorld) : Delivers w w := ⟨rfl, .refl _ _⟩

theorem trans {w₁ w₂ w₃ : LogWorld} (h₁ : Delivers w₁ w₂) (h₂ : Delivers w₂ w₃) :
    Delivers w₁ w₃ :=
  ⟨h₂.jobId.trans h₁.jobId, h₁.server.trans (h₁.jobId ▸ h₂.server)⟩

/-- Changing the log's buffer or flags delivers nothing. -/
theorem of_server {w w' : LogWorld} (jobId : w'.log.jobId = w.log.jobId)
    (server : w'.server = w.server) : Delivers w w' :=
  ⟨jobId, server ▸ .refl _ _⟩

end LogWorld.Delivers

theorem sendChunks_delivers (chunks : List Chunk) (w : LogWorld) :
    LogWorld.Delivers w (sendChunks chunks w).2 := by
  induction chunks generalizing w with
  | nil => exact .refl w
  | cons c rest ih =>
      have hsend := w.transport.send_takesOutput w.server w.log.jobId (Text.decodeLossy c.data)
        c.sectionName
      simp only [sendChunks]
      rcases hs : w.transport.send w.server w.log.jobId (Text.decodeLossy c.data) c.sectionName
        with ⟨r, t, server⟩
      rw [hs] at hsend
      cases r with
      | ok stop =>
          refine LogWorld.Delivers.trans ?_ (ih _)
          exact ⟨rfl, hsend⟩
      | error e => exact ⟨rfl, hsend⟩

theorem LogWorld.flush_delivers (w : LogWorld) (complete : Bool) :
    Delivers w (w.flush complete).2 := by
  unfold LogWorld.flush
  rcases w.log.buffer.take complete with ⟨ready, buffer⟩
  refine (Delivers.of_server ?_ ?_).trans (sendChunks_delivers _ _) <;> rfl

theorem LogWorld.write_delivers (w : LogWorld) (data : List UInt8) : Delivers w (w.write data) := by
  unfold LogWorld.write
  split
  · exact .refl w
  · exact .of_server rfl rfl

theorem LogWorld.writeText_delivers (w : LogWorld) (text : String) :
    Delivers w (w.writeText text) :=
  w.write_delivers _

theorem LogWorld.close_delivers (w : LogWorld) : Delivers w w.close.2 := by
  unfold LogWorld.close
  dsimp only
  -- the flusher's last ordinary flush, when it still runs, then the complete one
  split
  · refine (w.flush_delivers false).trans
      ((Delivers.of_server ?_ ?_).trans (LogWorld.flush_delivers _ true)) <;> rfl
  · exact w.flush_delivers true

/-! ## A whole build -/

theorem Worker.stageSource_delivers (w : Worker) (job : Job) (dir : List String) (log : LogWorld)
    (files : FileTree) : LogWorld.Delivers log (w.stageSource job dir log files).2.1 := by
  unfold Worker.stageSource
  split
  · exact log.writeText_delivers _
  · split <;> exact .refl log

/-- A build's log delivers output for its job, under supervision as well. -/
theorem supervise_delivers (flushIntervalMs : Nat) (log : LogWorld) (limits : Limits)
    (cancelAt : Option Nat) (trace : Shell.Trace) :
    LogWorld.Delivers log
      (supervise (LogWorld.sink flushIntervalMs) log limits cancelAt trace).sink :=
  supervise_preserves _ (LogWorld.Delivers log) (fun s bytes h => h.trans (s.write_delivers bytes))
    (fun s h => h.trans (s.flush_delivers false)) _ _ _ _ (.refl log)

/-- Running a job's build takes output for the job and nothing else. -/
theorem Worker.execute_takesOutput (w : Worker) (job : Job) (shutdownAt : Option Nat)
    (s : WorkerState) :
    TakesOutput job.id s.server ((w.execute job shutdownAt).run s).2.server := by
  cases hprep : prepareWorkDir s.files (w.workDir job) with
  | error e =>
      simp only [Worker.execute, StateT.run_bind, StateT.run_get, pure_bind, hprep, StateT.run_pure]
      exact .refl _ _
  | ok files =>
      simp only [Worker.execute, StateT.run_bind, StateT.run_get, pure_bind, hprep, StateT.run_pure,
        StateT.run_set]
      -- the build log goes from its header through supervision to its closing
      let log : LogWorld :=
        { log := { jobId := job.id }, transport := s.transport, server := s.server }
      exact (((log.writeText_delivers _).trans (w.stageSource_delivers job _ _ files)).trans
        ((supervise_delivers _ _ _ _ _).trans
          ((LogWorld.writeText_delivers _ _).trans (LogWorld.close_delivers _)))).server

/-- **A build takes output for its job and nothing else.** -/
theorem Worker.build_takesOutput (w : Worker) (job : Job) (shutdownAt : Option Nat)
    (s : WorkerState) :
    TakesOutput job.id s.server ((w.build job shutdownAt).run s).2.server := by
  have h := w.execute_takesOutput job shutdownAt (s.record .starting job)
  rcases hrun : (w.execute job shutdownAt).run (s.record .starting job) with ⟨ran, s'⟩
  rw [hrun] at h
  -- the journal entries around the run are no request of the server
  cases ran <;>
    simp only [Worker.build, StateT.run_bind, StateT.run_modify, pure_bind, hrun] <;>
    exact h

end BuildWorker
