import BuildWorker.Worker.Loop
import BuildWorker.Proofs.Worker.Output
import BuildWorker.Proofs.Identity.StoreSteps
/-!
# Every claimed job is reported once

The job loop claims jobs one at a time.  What the server records of a run of the loop
is the jobs it handled, in the order it claimed them (`Handled`): each was the first
job waiting, and was either handed back, or built and reported once, with the output
of its build delivered before the report (`Handles`).  The server answers a claim after
its claim time, so a shutdown may fall between the check before the claim and the
answer: a job is handed back exactly when the worker hands jobs back or the fixed
shutdown time had come when the claim was answered, and a job built is reported with the
outcome of its build, started at that time (`Handled.Follows`).  A shutdown after a
planned number of jobs never falls in a claim (`ShutdownPlan.time_after`): it is noted
at the time the last of those jobs is handled, and the check before the next claim sees
it.

A pass of the loop stops, stops with an error, waits or handles one job
(`Worker.loop_pass`), so a whole run of the loop handles jobs this way
(`Worker.loop_handles`), and ends with an error only when the server no longer knows
the worker (`Worker.loop_error`).  The loop under the running guard
(`Worker.runGuarded_reports`) adds the guard: the loop's errors and the guard's own,
and the guard is given back however the loop ended.
-/

set_option autoImplicit false

namespace BuildWorker

/-! ## Claiming a job -/

namespace MemoryQueue

/-- A claim that gives a job takes the first job waiting and changes nothing else. -/
theorem popJob_claimed {q q' : MemoryQueue} {workerId : String} {job : Job}
    (h : q.popJob workerId = (.ok (some job), q')) :
    ∃ rest, q.jobs = job :: rest ∧ q' = { q with jobs := rest } := by
  unfold popJob at h
  split at h
  · simp at h
  · split at h
    · simp only [Prod.mk.injEq, Except.ok.injEq, Option.some.injEq] at h
      obtain ⟨rfl, rfl⟩ := h
      exact ⟨_, by assumption, rfl⟩
    · simp at h

/-- A claim that gives no job changes nothing. -/
theorem popJob_unclaimed {q q' : MemoryQueue} {workerId : String}
    {r : Except ServerError (Option Job)} (h : q.popJob workerId = (r, q'))
    (none : ∀ job, r ≠ .ok (some job)) : q' = q := by
  unfold popJob at h
  split at h
  · exact (Prod.mk.inj h).2.symm
  · split at h
    · obtain ⟨rfl, rfl⟩ := Prod.mk.inj h
      exact absurd rfl (none _)
    · exact (Prod.mk.inj h).2.symm

end MemoryQueue

/-! ## Time in a build -/

/-- Running a build script takes the clock forward by the run's time, or leaves it. -/
theorem Worker.execute_clock (w : Worker) (job : Job) (shutdownAt : Option Nat)
    (s : WorkerState) : s.clock ≤ ((w.execute job shutdownAt).run s).2.clock := by
  unfold Worker.execute
  simp only [StateT.run_bind, StateT.run_get, pure_bind]
  split
  · exact Nat.le_refl _
  · exact Nat.le_add_right _ _

/-- A build never turns the clock back. -/
theorem Worker.build_clock (w : Worker) (job : Job) (shutdownAt : Option Nat)
    (s : WorkerState) : s.clock ≤ ((w.build job shutdownAt).run s).2.clock := by
  have hexec := w.execute_clock job shutdownAt (s.record .starting job)
  unfold Worker.build
  simp only [StateT.run_bind, StateT.run_modify, pure_bind]
  -- the journal entries around the run keep its clock
  rcases h : (w.execute job shutdownAt).run (s.record .starting job) with ⟨_ | code, s₁⟩ <;>
    rw [h] at hexec <;> exact hexec

/-! ## When the worker is told to shut down -/

/-- The planned number of jobs, if it was reached, was reached by the loop's time. -/
def LoopState.Settled (s : LoopState) : Prop :=
  s.drainedAt.all (· ≤ s.worker.clock) = true

/-- **A shutdown falls in a claim only at its fixed time.**  A worker not told to shut
down by now, whose planned number of jobs was reached by now if at all, is told to shut
down by a later time exactly when the fixed time has come by then. -/
theorem ShutdownPlan.time_after {plan : ShutdownPlan} {drainedAt : Option Nat} {now : Nat}
    (settled : drainedAt.all (· ≤ now) = true)
    (running : (plan.time drainedAt).any (· ≤ now) = false) (t : Nat) :
    (plan.time drainedAt).any (· ≤ t) = plan.atTime.any (· ≤ t) := by
  rcases plan with ⟨atTime, afterJobs⟩
  unfold ShutdownPlan.time earliest at *
  cases afterJobs <;> cases drainedAt <;> cases atTime <;> simp_all

/-- Noting the planned number of jobs keeps it reached by the loop's time. -/
theorem noteDrained_settled (plan : ShutdownPlan) {s : LoopState} (settled : s.Settled) :
    ((noteDrained plan).run s).2.Settled := by
  simp only [noteDrained, StateT.run_modify]
  split
  · split
    · exact decide_eq_true (Nat.le_refl _)
    · exact settled
  · exact settled

/-! ## What the loop did with a job -/

/-- What the loop did with a job it claimed, and when the server answered the claim:
handed it back, or built it and reported its outcome after delivering the build's
output calls. -/
inductive Handled where
  | handedBack (job : Job) (claimedAt : Nat)
  | built (job : Job) (claimedAt : Nat) (outcome : Outcome) (logs : List LogCall)

namespace Handled

/-- The job claimed. -/
def job : Handled → Job
  | handedBack job _ => job
  | built job _ _ _ => job

/-- When the server answered the claim. -/
def claimedAt : Handled → Nat
  | handedBack _ t => t
  | built _ t _ _ => t

/-- The id the server is given back. -/
def handedBackId : Handled → Option String
  | handedBack job _ => some job.id
  | built .. => none

/-- The report the server is given. -/
def report : Handled → Option FinishedBuild
  | handedBack .. => none
  | built job _ outcome _ => some ⟨job.id, outcome.status, outcome.failed⟩

/-- The output calls delivered. -/
def logs : Handled → List LogCall
  | handedBack .. => []
  | built _ _ _ logs => logs

/-- What a worker does with a claimed job: it hands it back exactly when it hands jobs
back or the fixed shutdown time had come when the claim was answered, and otherwise
reports the outcome of a build of the job started then, whose output calls are the ones
delivered, each naming the job. -/
def Follows (w : Worker) (plan : ShutdownPlan) : Handled → Prop
  | handedBack _ t => w.options.pushBack = true ∨ plan.atTime.any (· ≤ t) = true
  | built job t outcome logs =>
      w.options.pushBack = false ∧ plan.atTime.any (· ≤ t) = false ∧
      (∀ c ∈ logs, c.jobId = job.id) ∧
      ∃ s s', s.clock = t ∧ (w.build job plan.atTime).run s = (outcome, s') ∧
        s'.server.logs = s.server.logs ++ logs

end Handled

/-- The jobs handled between two times and two states of the server, as the server
records them: they were the first jobs waiting, in the order claimed; each was handed
back or reported once, and nothing else; the output calls are those of the builds, in
order; the worker did with each what it does with a job; and the claims were answered in
order, in between the two times. -/
structure Handles (w : Worker) (plan : ShutdownPlan) (now now' : Nat) (q q' : MemoryQueue)
    (handled : List Handled) : Prop where
  jobs : q.jobs = handled.map Handled.job ++ q'.jobs
  pushed : q'.pushed = q.pushed ++ handled.filterMap Handled.handedBackId
  finished : q'.finished = q.finished ++ handled.filterMap Handled.report
  logs : q'.logs = q.logs ++ handled.flatMap Handled.logs
  follows : ∀ h ∈ handled, h.Follows w plan
  forward : now ≤ now'
  ordered : (handled.map Handled.claimedAt).Pairwise (· ≤ ·)
  within : ∀ h ∈ handled, now ≤ h.claimedAt ∧ h.claimedAt ≤ now'

namespace Handles

variable {w : Worker} {plan : ShutdownPlan}

theorem nil (q : MemoryQueue) {now now' : Nat} (forward : now ≤ now') :
    Handles w plan now now' q q [] :=
  ⟨by simp, by simp, by simp, by simp, by simp, forward, by simp, by simp⟩

theorem append {now₁ now₂ now₃ : Nat} {q₁ q₂ q₃ : MemoryQueue} {first second : List Handled}
    (h₁ : Handles w plan now₁ now₂ q₁ q₂ first) (h₂ : Handles w plan now₂ now₃ q₂ q₃ second) :
    Handles w plan now₁ now₃ q₁ q₃ (first ++ second) where
  jobs := by rw [h₁.jobs, h₂.jobs]; simp
  pushed := by rw [h₂.pushed, h₁.pushed]; simp
  finished := by rw [h₂.finished, h₁.finished]; simp
  logs := by rw [h₂.logs, h₁.logs]; simp
  follows h hh := (List.mem_append.1 hh).elim (h₁.follows h) (h₂.follows h)
  forward := h₁.forward.trans h₂.forward
  ordered := by
    rw [List.map_append, List.pairwise_append]
    refine ⟨h₁.ordered, h₂.ordered, ?_⟩
    -- the first claims were answered by the middle time, the second ones from it on
    simp only [List.mem_map]
    rintro _ ⟨a, ha, rfl⟩ _ ⟨b, hb, rfl⟩
    exact (h₁.within a ha).2.trans (h₂.within b hb).1
  within h hh := (List.mem_append.1 hh).elim
    (fun hh => ⟨(h₁.within h hh).1, (h₁.within h hh).2.trans h₂.forward⟩)
    (fun hh => ⟨h₁.forward.trans (h₂.within h hh).1, (h₂.within h hh).2⟩)

/-- Handing back a job claimed at a time. -/
theorem handBack (plan : ShutdownPlan) (q : MemoryQueue) (job : Job) (rest : List Job)
    (hjobs : q.jobs = job :: rest) {now t : Nat} (hnow : now ≤ t)
    (back : w.options.pushBack = true ∨ plan.atTime.any (· ≤ t) = true) :
    Handles w plan now t q { q with jobs := rest, pushed := q.pushed ++ [job.id] }
      [.handedBack job t] where
  jobs := by simp [hjobs, Handled.job]
  pushed := by simp [Handled.handedBackId]
  finished := by simp [Handled.report]
  logs := by simp [Handled.logs]
  follows h hh := by
    rw [List.mem_singleton.1 hh]
    exact back
  forward := hnow
  ordered := by simp
  within h hh := by
    rw [List.mem_singleton.1 hh]
    exact ⟨hnow, Nat.le_refl t⟩

/-- Building a job claimed by the time of the state it is built from, and reporting it. -/
theorem build (plan : ShutdownPlan) (q : MemoryQueue) (job : Job) (rest : List Job)
    (hjobs : q.jobs = job :: rest) (claimed : WorkerState)
    (hclaimed : claimed.server = { q with jobs := rest }) (keep : w.options.pushBack = false)
    (running : plan.atTime.any (· ≤ claimed.clock) = false) {now : Nat}
    (hnow : now ≤ claimed.clock) :
    let built := (w.build job plan.atTime).run claimed
    ∃ logs, Handles w plan now built.2.clock q
      (built.2.server.finishBuild job.id built.1.status built.1.failed)
      [.built job claimed.clock built.1 logs] := by
  intro built
  have hout := w.build_takesOutput job plan.atTime claimed
  have hclock := w.build_clock job plan.atTime claimed
  obtain ⟨logs, hlogs, hjob⟩ := hout.logs
  refine ⟨logs, ?_, ?_, ?_, ?_, ?_, hnow.trans hclock, by simp, ?_⟩
  · simp [hjobs, Handled.job, MemoryQueue.finishBuild, built, hout.jobs, hclaimed]
  · simp [Handled.handedBackId, MemoryQueue.finishBuild, built, hout.pushed, hclaimed]
  · simp [Handled.report, MemoryQueue.finishBuild, built, hout.finished, hclaimed]
  · simp [Handled.logs, MemoryQueue.finishBuild, built, hlogs, hclaimed]
  · intro h hh
    rw [List.mem_singleton.1 hh]
    exact ⟨keep, running, hjob, claimed, built.2, rfl, rfl, hlogs⟩
  · intro h hh
    rw [List.mem_singleton.1 hh]
    exact ⟨hnow, hclock⟩

end Handles

/-! ## One pass of the loop -/

/-- The error a worker stops with when the server no longer knows it: the server's own
answer when tracebacks are shown, the worker's removal otherwise. -/
def Worker.Removed (w : Worker) (e : WorkerError) : Prop :=
  if w.options.showTraceback then ∃ detail, e = .server (.notFound detail)
  else e = .workerRemoved w.identity.workerId

/-- The loop's steps give plain values: a result is the value, and a bind applies. -/
theorem id_pure_eq {α : Type} (a : α) : (pure a : Id α) = a := rfl

theorem id_bind_eq {α β : Type} (x : Id α) (f : α → Id β) : x >>= f = f x := rfl

/-- Noting the planned number of jobs is no request of the server. -/
@[simp] theorem noteDrained_worker (plan : ShutdownPlan) (s : LoopState) :
    ((noteDrained plan).run s).2.worker = s.worker := by
  simp only [noteDrained, StateT.run_modify]
  split
  · split <;> rfl
  · rfl

/-- A planned number of jobs reached by a time was reached by any later one. -/
theorem LoopState.Settled.later {s : LoopState} (settled : s.Settled) {t : Nat}
    (later : s.worker.clock ≤ t) : s.drainedAt.all (· ≤ t) = true := by
  unfold LoopState.Settled at settled
  cases h : s.drainedAt with
  | none => rfl
  | some d =>
      rw [h] at settled
      simp only [Option.all_some, decide_eq_true_eq] at settled ⊢
      omega

/-- **One pass of the loop.**  A worker that is shut down stops; otherwise it claims a
job, and the server answers after its claim time.  One the server no longer knows stops
with an error; with no job claimed, the loop waits for the shutdown and goes on, or never
stops when no shutdown is due; a job claimed is handled, as of the time the claim was
answered, and the loop stops after it when it runs once and goes on otherwise. -/
theorem Worker.loop_pass (w : Worker) (plan : ShutdownPlan) (fuel : Nat) (s : LoopState)
    (settled : s.Settled) :
    let r := (w.loop plan (fuel + 1)).run s
    let now := s.worker.clock
    r = (some (.ok ()), s) ∨
    (∃ e, w.Removed e ∧ ∃ s₁ : LoopState,
      Handles w plan now s₁.worker.clock s.worker.server s₁.worker.server [] ∧
      r = (some (.error e), s₁)) ∨
    (∃ s₁ : LoopState, Handles w plan now s₁.worker.clock s.worker.server s₁.worker.server [] ∧
      r = (none, s₁)) ∨
    (∃ s₁ : LoopState, s₁.Settled ∧
      Handles w plan now s₁.worker.clock s.worker.server s₁.worker.server [] ∧
      r = (w.loop plan fuel).run s₁) ∨
    (∃ h s₁, s₁.Settled ∧
      Handles w plan now s₁.worker.clock s.worker.server s₁.worker.server [h] ∧
      h.claimedAt = now + s.worker.server.claimTime ∧
      r = if w.options.runOnce then (some (.ok ()), s₁) else (w.loop plan fuel).run s₁) := by
  intro r now
  -- a worker that is shut down stops before it claims anything
  by_cases hsd : (plan.time s.drainedAt).any (· ≤ s.worker.clock) = true
  · left
    simp [r, Worker.loop, isShutDown, hsd]
    rfl
  have answered : now ≤ now + s.worker.server.claimTime := Nat.le_add_right _ _
  rcases hpop : s.worker.server.popJob w.identity.workerId with ⟨claim, server⟩
  rcases claim with (_ | _ | _ | _ | _ | _) | _ | job
  case error.notFound detail =>
    right; left
    have hsame := MemoryQueue.popJob_unclaimed hpop (by simp)
    subst hsame
    simp only [r, Worker.loop, isShutDown, StateT.run_bind, StateT.run_get, id_bind_eq, hsd,
      Bool.false_eq_true, if_false, StateT.run_set, hpop, StateT.run_pure, id_pure_eq]
    refine ⟨_, ?_, _, ?_, rfl⟩
    · unfold Worker.Removed
      split <;> simp_all
    · exact .nil _ answered
  case ok.some =>
    obtain ⟨rest, hjobs, rfl⟩ := MemoryQueue.popJob_claimed hpop
    right; right; right; right
    -- until the answer, only the fixed time can have told the worker to shut down
    have hdue := ShutdownPlan.time_after settled (Bool.eq_false_iff.mpr hsd)
      (s.worker.clock + s.worker.server.claimTime)
    cases hback : (w.options.pushBack ||
      plan.atTime.any (· ≤ s.worker.clock + s.worker.server.claimTime))
    · -- the job is built, then reported
      obtain ⟨hkeep, hrunning⟩ := Bool.or_eq_false_iff.mp hback
      let claimed : WorkerState := { s.worker with
        server := { s.worker.server with jobs := rest },
        clock := s.worker.clock + s.worker.server.claimTime }
      obtain ⟨logs, hh⟩ := Handles.build plan s.worker.server job rest hjobs claimed rfl hkeep
        hrunning answered
      have hclock := w.build_clock job plan.atTime claimed
      simp only [r, Worker.loop, isShutDown, StateT.run_bind, StateT.run_get, id_bind_eq, hsd,
        Bool.false_eq_true, if_false, StateT.run_set, hpop, StateT.run_pure, id_pure_eq,
        liftWorker, StateT.run_modify, hdue, hkeep, hrunning, Bool.false_or]
      generalize (w.build job plan.atTime).run claimed = b at hh hclock ⊢
      obtain ⟨outcome, built⟩ := b
      simp only [StateT.run_bind, StateT.run_set, StateT.run_pure, id_bind_eq, id_pure_eq]
      have hsettled := noteDrained_settled plan (s := { s with worker :=
        { built with server := built.server.finishBuild job.id outcome.status outcome.failed } })
        (settled.later (answered.trans hclock))
      cases w.options.runOnce <;>
        simp only [Bool.false_eq_true, if_false, if_true, StateT.run_pure, id_pure_eq] <;>
        exact ⟨_, _, hsettled, by simpa using hh, rfl, rfl⟩
    · -- the job is handed back
      have hh := Handles.handBack (w := w) plan s.worker.server job rest hjobs answered
        (by rwa [Bool.or_eq_true] at hback)
      have hsettled := noteDrained_settled plan (s := { s with worker :=
        { s.worker with
          server := { s.worker.server with jobs := rest }.pushJob job.id,
          clock := s.worker.clock + s.worker.server.claimTime } })
        (settled.later answered)
      simp only [r, Worker.loop, isShutDown, StateT.run_bind, StateT.run_get, id_bind_eq, hsd,
        Bool.false_eq_true, if_false, StateT.run_set, hpop, StateT.run_pure, id_pure_eq,
        liftWorker, StateT.run_modify, hdue, hback, if_true]
      cases w.options.runOnce <;>
        simp only [Bool.false_eq_true, if_false, if_true, StateT.run_pure, id_pure_eq] <;>
        exact ⟨_, _, hsettled, by simpa [MemoryQueue.pushJob] using hh, rfl, rfl⟩
  all_goals
    -- no job claimed: the loop waits for the shutdown, or never stops
    have hsame := MemoryQueue.popJob_unclaimed hpop (by simp)
    subst hsame
    simp only [r, Worker.loop, isShutDown, StateT.run_bind, StateT.run_get, id_bind_eq, hsd,
      Bool.false_eq_true, if_false, StateT.run_set, hpop, StateT.run_pure, id_pure_eq, shutdownTime]
    cases plan.time s.drainedAt with
    | none =>
        refine .inr (.inr (.inl ⟨_, ?_, rfl⟩))
        exact .nil _ answered
    | some t =>
        have waited : now ≤ max (now + s.worker.server.claimTime) t :=
          answered.trans (Nat.le_max_left _ _)
        refine .inr (.inr (.inr (.inl ⟨{ s with worker := { s.worker with
          clock := max (s.worker.clock + s.worker.server.claimTime) t } },
          settled.later waited, .nil _ waited, ?_⟩)))
        simp only [StateT.run_bind, StateT.run_modify, id_bind_eq, id_pure_eq]

/-! ## A run of the loop -/

/-- **A run of the loop handles the jobs it claims** as `Handles` says, between the
times it starts and ends; a worker that runs once handles one job at most, and stops
after it. -/
theorem Worker.loop_handles (w : Worker) (plan : ShutdownPlan) (fuel : Nat) (s : LoopState)
    (settled : s.Settled) :
    let r := (w.loop plan fuel).run s
    ∃ handled, Handles w plan s.worker.clock r.2.worker.clock s.worker.server
        r.2.worker.server handled ∧
      (w.options.runOnce = true → handled.length ≤ 1 ∧ (handled ≠ [] → r.1 = some (.ok ()))) := by
  induction fuel generalizing s with
  | zero => exact ⟨[], .nil _ (Nat.le_refl _), fun _ => ⟨by simp, fun h => absurd rfl h⟩⟩
  | succ fuel ih =>
      intro r
      -- the pass that starts the run, then the run after it
      rcases w.loop_pass plan fuel s settled with
          h | ⟨e, -, s₁, hh, h⟩ | ⟨s₁, hh, h⟩ | ⟨s₁, settled₁, hh, h⟩ |
          ⟨hd, s₁, settled₁, hh, -, h⟩
      case inr.inr.inr.inr =>
        cases hro : w.options.runOnce
        · simp only [hro, Bool.false_eq_true, if_false] at h
          obtain ⟨handled, hrest, -⟩ := ih s₁ settled₁
          refine ⟨hd :: handled, ?_, fun h => absurd h (by simp)⟩
          rw [show r = _ from h]
          exact hh.append hrest
        · simp only [hro, if_true] at h
          refine ⟨[hd], ?_, fun _ => ⟨by simp, fun _ => by rw [show r = _ from h]⟩⟩
          rw [show r = _ from h]
          exact hh
      case inr.inr.inr.inl =>
        obtain ⟨handled, hrest, once⟩ := ih s₁ settled₁
        rw [show r = _ from h]
        exact ⟨handled, hh.append hrest, once⟩
      case inl =>
        rw [show r = _ from h]
        exact ⟨[], .nil _ (Nat.le_refl _), fun _ => ⟨by simp, fun h => absurd rfl h⟩⟩
      all_goals
        rw [show r = _ from h]
        exact ⟨[], hh, fun _ => ⟨by simp, fun h => absurd rfl h⟩⟩

/-- **The loop stops with an error only when the server no longer knows the worker.** -/
theorem Worker.loop_error (w : Worker) (plan : ShutdownPlan) (fuel : Nat) (s : LoopState)
    (settled : s.Settled) {e : WorkerError} (h : ((w.loop plan fuel).run s).1 = some (.error e)) :
    w.Removed e := by
  induction fuel generalizing s with
  | zero => exact nomatch h
  | succ fuel ih =>
      rcases w.loop_pass plan fuel s settled with
          hr | ⟨e', removed, s₁, -, hr⟩ | ⟨s₁, -, hr⟩ | ⟨s₁, settled₁, -, hr⟩ |
          ⟨-, s₁, settled₁, -, -, hr⟩ <;>
        rw [hr] at h
      · simp at h
      · simp only [Option.some.injEq, Except.error.injEq] at h
        exact h ▸ removed
      · simp at h
      · exact ih s₁ settled₁ h
      · split at h
        · simp at h
        · exact ih s₁ settled₁ h

/-! ## The loop under the running guard -/

/-- **Every claimed job is reported once, and the running guard is given back.**  Run
under the running guard, the loop handles the jobs it claims as `Handles` says, from
the jobs the server held at the start; a worker that runs once handles one job at most
and stops after it; the run ends with an error only when the guard cannot be taken,
with no job handled, or when the server no longer knows the worker; and however it
ends, the store holds the locks it held before, and a guard that was taken leaves its
identity stored as not running. -/
theorem Worker.runGuarded_reports (w : Worker) (store : IdentityStore) (plan : ShutdownPlan)
    (fuel : Nat) (files : FileTree) (st : StoreState) :
    let acquired := runStoreStep (store.acquire w.identity.workerId) st
    let r := w.runGuarded store plan fuel files st
    ∃ handled ended, Handles w plan 0 ended st.server r.2.1.server handled ∧
      (w.options.runOnce = true → handled.length ≤ 1 ∧ (handled ≠ [] → r.1 = some (.ok ()))) ∧
      (∀ e, r.1 = some (.error e) → w.Removed e ∨ (handled = [] ∧ acquired.1 = .error e)) ∧
      r.2.1.locked = st.locked ∧
      (∀ g, acquired.1 = .ok g →
        r.2.1.Stores { g.identity with running := false, pid := none }) := by
  intro acquired r
  have hserver := store.acquire_keepsServer w.identity.workerId .current st
  rcases hacq : runStoreStep (store.acquire w.identity.workerId) st with ⟨_ | g, st₁⟩
  case error e =>
    -- the guard is refused: the loop does not run
    have hlocked := (store.acquire_error hacq).1
    simp only [hacq] at hserver
    simp only [r, Worker.runGuarded, hacq]
    refine ⟨[], 0, hserver ▸ .nil _ (Nat.le_refl 0), fun _ => ⟨by simp, fun h => absurd rfl h⟩, ?_,
      hlocked, ?_⟩
    · intro e' he'
      simp only [Option.some.injEq, Except.error.injEq] at he'
      exact .inr ⟨rfl, by simp [acquired, hacq, he']⟩
    · intro g hg
      simp [acquired, hacq] at hg
  case ok =>
    obtain ⟨lockedA, -, -, ⟨node, hfile⟩, htemp, -, -⟩ := store.acquire_ok hacq
    simp only [hacq] at hserver
    simp only [r, Worker.runGuarded, hacq, seqRight_eq_bind, StateT.run_bind, id_bind_eq]
    -- the loop runs from the server the guard was taken on
    have hstart := noteDrained_worker plan { worker := { server := st₁.server, files := files } }
    -- nothing was done at the start, so no planned number of jobs was reached before it
    have settled := noteDrained_settled plan
      (s := { worker := { server := st₁.server, files := files } }) rfl
    generalize ((noteDrained plan).run { worker := { server := st₁.server, files := files } }).2 =
      start at hstart settled ⊢
    obtain ⟨handled, hh, once⟩ := w.loop_handles plan fuel start settled
    have herr : ∀ e, ((w.loop plan fuel).run start).1 = some (.error e) → w.Removed e :=
      fun _ h => w.loop_error plan fuel start settled h
    rcases hloop : (w.loop plan fuel).run start with ⟨result, after⟩
    simp only [hloop] at hh once herr
    rw [hstart, hserver] at hh
    -- then the guard is let go, whatever the loop's end
    obtain ⟨-, lockedR, -, storedR⟩ :=
      store.release_spec { st₁ with server := after.worker.server } g
    have serverR := store.release_keepsServer g { st₁ with server := after.worker.server }
    refine ⟨handled, _, by rwa [serverR], once, fun e he => .inl (herr e he), ?_, fun g' hg' => ?_⟩
    · rw [lockedR]
      simp [lockedA]
    · simp only [acquired, hacq, Except.ok.injEq] at hg'
      subst hg'
      -- the store's files are no part of the loop's work
      exact storedR node _ hfile fun h => by
        change st₁.entryAt _ = _ at h
        simp [htemp] at h

end BuildWorker
