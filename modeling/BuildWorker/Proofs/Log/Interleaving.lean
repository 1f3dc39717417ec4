import BuildWorker.Proofs.Log.Accounting
import Mathlib.Logic.Relation
/-!
# A build log delivers every written byte once, in order

Writers add output to a build log at any time, from any number of threads, while
flushes (the background loop's, explicit ones, and the last one of closing) take
what is ready and send it chunk by chunk.  The buffer is behind a lock, so each
write, each take and each requeue happens at once; flushes are behind a second
lock, so at most one is under way.  Everything else interleaves freely, and every
request to the server may succeed or fail.

This module gives that freedom as a step relation (`LogStep`) over the buffer, the
flush under way, and two records kept beside them for the statement: the chunks
delivered so far and the bytes written so far.  A step is one of

* a write, which appends to the buffer (`LogBuffer.append`);
* a flush taking what is ready (`LogBuffer.take`), only when no flush is under way;
* the flush's next request succeeding, which delivers its chunk;
* the flush's next request failing, which puts that chunk and the rest back in
  front of the buffer (`LogBuffer.requeue`) and ends the flush with an error;
* the flush ending after its last chunk was delivered.

The invariant (`LogRun.Accounted`) is that the bytes delivered, then the bytes the
flush took and has not sent, then the bytes in the buffer, are exactly the bytes
written, in order.  From it (`LogRun.delivers_each_byte_once`): a flush that
completes the log and returns normally has delivered exactly what was written
before it started, and a failed flush leaves every undelivered byte in the
buffer, in order, ahead of anything written later.

The worker's own log operations are runs of this relation (`LogWorld.write_step`,
`LogWorld.flush_steps`, `LogWorld.close_steps`), and what such a run delivers is
exactly the text the server records.  A failing request between the error and the
requeue is covered too: a write there only appends to the buffer, so it commutes
with the requeue, which puts chunks in front.
-/

set_option autoImplicit false

namespace BuildWorker

/-! ## Interleavings of writes and flushes -/

/-- A flush under way: whether it completes the log (sending unfinished characters
too), the chunks it took and has not sent yet, and how many bytes had been written
when it took them. -/
structure FlushInProgress where
  complete : Bool
  pending : List Chunk
  mark : Nat
  deriving DecidableEq, Repr

/-- A build log in the middle of its life: the buffer, the flush under way if any,
and, for the statements, the chunks delivered so far and the bytes written so far. -/
structure LogRun where
  buffer : LogBuffer := {}
  flush : Option FlushInProgress := none
  delivered : List Chunk := []
  written : List UInt8 := []
  deriving DecidableEq, Repr

/-- What can happen next to a build log. -/
inductive LogEvent where
  /-- A writer adds output. -/
  | write (data : List UInt8)
  /-- A flush takes what is ready. -/
  | take (complete : Bool)
  /-- The server accepted the flush's next chunk. -/
  | deliver
  /-- The server refused the flush's next chunk. -/
  | fail
  /-- The flush has sent everything it took. -/
  | finish
  deriving DecidableEq, Repr

/-- One step of a build log. -/
inductive LogStep : LogRun → LogEvent → LogRun → Prop where
  | write (s : LogRun) (data : List UInt8) :
      LogStep s (.write data)
        { s with buffer := s.buffer.append data, written := s.written ++ data }
  | take (s : LogRun) (complete : Bool) (idle : s.flush = none) :
      LogStep s (.take complete)
        { s with
          buffer := (s.buffer.take complete).2
          flush := some ⟨complete, (s.buffer.take complete).1, s.written.length⟩ }
  | deliver (s : LogRun) (complete : Bool) (c : Chunk) (rest : List Chunk) (mark : Nat)
      (busy : s.flush = some ⟨complete, c :: rest, mark⟩) :
      LogStep s .deliver
        { s with flush := some ⟨complete, rest, mark⟩, delivered := s.delivered ++ [c] }
  | fail (s : LogRun) (complete : Bool) (c : Chunk) (rest : List Chunk) (mark : Nat)
      (busy : s.flush = some ⟨complete, c :: rest, mark⟩) :
      LogStep s .fail { s with flush := none, buffer := s.buffer.requeue (c :: rest) }
  | finish (s : LogRun) (complete : Bool) (mark : Nat)
      (busy : s.flush = some ⟨complete, [], mark⟩) :
      LogStep s .finish { s with flush := none }

/-- The states a build log passes through from its opening, over any interleaving. -/
inductive LogRun.Reachable : LogRun → Prop where
  | opened : LogRun.Reachable {}
  | step {s s' : LogRun} {e : LogEvent} : s.Reachable → LogStep s e s' → s'.Reachable

namespace LogRun

/-- The bytes the flush under way took and has not sent yet. -/
def inFlight (s : LogRun) : List UInt8 :=
  match s.flush with
  | some f => chunkBytes f.pending
  | none => []

/-! ## The invariant -/

/-- Every written byte is in exactly one place, and the places are in write order. -/
structure Accounted (s : LogRun) : Prop where
  /-- Delivered, then in flight, then buffered: everything written. -/
  ordered : chunkBytes s.delivered ++ s.inFlight ++ chunkBytes s.buffer.chunks = s.written
  /-- A flush took its chunks at a point of the written bytes. -/
  mark_le : ∀ f, s.flush = some f → f.mark ≤ s.written.length
  /-- A flush that completes the log took everything, so the buffer holds exactly
  what was written since. -/
  since_mark : ∀ f, s.flush = some f → f.complete = true →
    chunkBytes s.buffer.chunks = s.written.drop f.mark

theorem accounted_opened : Accounted {} where
  ordered := rfl
  mark_le := by simp
  since_mark := by simp

/-- **Every step keeps every byte in its place.** -/
theorem Accounted.step {s s' : LogRun} {e : LogEvent} (hs : s.Accounted)
    (step : LogStep s e s') : s'.Accounted := by
  cases step with
  | write data =>
      refine ⟨?_, ?_, ?_⟩
      · show chunkBytes s.delivered ++ s.inFlight ++ _ = _
        rw [LogBuffer.append_bytes, ← hs.ordered]
        simp
      · intro f hf
        have hle := hs.mark_le f hf
        simp only [List.length_append]
        omega
      · intro f hf hc
        rw [LogBuffer.append_bytes, hs.since_mark f hf hc,
          List.drop_append_of_le_length (hs.mark_le f hf)]
  | take complete idle =>
      refine ⟨?_, ?_, ?_⟩
      · have h := hs.ordered
        simp only [inFlight, idle, List.append_nil] at h ⊢
        rw [List.append_assoc, LogBuffer.take_bytes, h]
      · intro f hf
        simp only [Option.some.injEq] at hf
        subst hf
        exact Nat.le_refl _
      · intro f hf hc
        simp only [Option.some.injEq] at hf
        subst hf
        simp only at hc
        subst hc
        simp [LogBuffer.take_complete_chunks]
  | deliver complete c rest mark busy =>
      refine ⟨?_, ?_, ?_⟩
      · have h := hs.ordered
        simp only [inFlight, busy, chunkBytes_cons] at h ⊢
        rw [← h]
        simp
      · intro f hf
        simp only [Option.some.injEq] at hf
        subst hf
        exact hs.mark_le ⟨complete, c :: rest, mark⟩ busy
      · intro f hf
        simp only [Option.some.injEq] at hf
        subst hf
        exact hs.since_mark ⟨complete, c :: rest, mark⟩ busy
  | fail complete c rest mark busy =>
      refine ⟨?_, ?_, ?_⟩
      · have h := hs.ordered
        simp only [inFlight, busy] at h ⊢
        rw [LogBuffer.requeue_bytes, ← h]
        simp
      · intro f hf
        cases hf
      · intro f hf
        cases hf
  | finish complete mark busy =>
      refine ⟨?_, ?_, ?_⟩
      · have h := hs.ordered
        simp only [inFlight, busy] at h ⊢
        simpa using h
      · intro f hf
        cases hf
      · intro f hf
        cases hf

/-- **Every state a log reaches keeps every byte in its place.** -/
theorem Reachable.accounted {s : LogRun} (hs : s.Reachable) : s.Accounted := by
  induction hs with
  | opened => exact accounted_opened
  | step _ step ih => exact ih.step step

/-- A flush that completes the log and has nothing left has delivered exactly what
was written before it took the buffer. -/
theorem Accounted.finish_complete {s : LogRun} {mark : Nat} (hs : s.Accounted)
    (busy : s.flush = some ⟨true, [], mark⟩) :
    chunkBytes s.delivered = s.written.take mark ∧
      chunkBytes s.buffer.chunks = s.written.drop mark := by
  have hsince := hs.since_mark _ busy rfl
  have hordered := hs.ordered
  simp only [inFlight, busy, chunkBytes_nil, List.append_nil, hsince] at hordered
  refine ⟨?_, hsince⟩
  have hsplit := List.take_append_drop mark s.written
  exact List.append_cancel_right (hordered.trans hsplit.symm)

/-- A failed flush puts back exactly the bytes not delivered, in order. -/
theorem Accounted.requeue_undelivered {s : LogRun} {complete : Bool} {c : Chunk}
    {rest : List Chunk} {mark : Nat} (hs : s.Accounted)
    (busy : s.flush = some ⟨complete, c :: rest, mark⟩) :
    chunkBytes (s.buffer.requeue (c :: rest)).chunks =
      s.written.drop (chunkBytes s.delivered).length := by
  have hordered := hs.ordered
  simp only [inFlight, busy] at hordered
  rw [LogBuffer.requeue_bytes, ← hordered, List.append_assoc, List.drop_left]

/-- **A build log delivers every written byte exactly once, in order.**  In every
state of every interleaving of writes, flushes and request outcomes, the bytes
delivered, then those the flush under way has not sent, then those buffered, are
the bytes written.  When the flush that completes the log (the last one of closing)
returns normally, it has delivered exactly everything written before it started,
and the buffer holds only what was written while it ran.  When a flush fails,
nothing more is delivered and the buffer holds every undelivered byte, in order;
later writes go after them. -/
theorem delivers_each_byte_once {s : LogRun} (hs : s.Reachable) :
    chunkBytes s.delivered ++ s.inFlight ++ chunkBytes s.buffer.chunks = s.written ∧
    (∀ f s', s.flush = some f → f.complete = true → LogStep s .finish s' →
      chunkBytes s'.delivered = s.written.take f.mark ∧
        chunkBytes s'.buffer.chunks = s.written.drop f.mark) ∧
    (∀ s', LogStep s .fail s' →
      s'.delivered = s.delivered ∧
        chunkBytes s'.buffer.chunks = s.written.drop (chunkBytes s.delivered).length) := by
  have acc := hs.accounted
  refine ⟨acc.ordered, ?_, ?_⟩
  · intro f s' hf hc step
    cases step with
    | finish complete mark busy =>
        rw [hf, Option.some.injEq] at busy
        subst busy
        simp only at hc
        subst hc
        exact acc.finish_complete hf
  · intro s' step
    cases step with
    | fail complete c rest mark busy => exact ⟨rfl, acc.requeue_undelivered busy⟩

/-- A log that was written half a character, took the whole first character for a
flush, got the rest of the second written meanwhile, and failed to send: the first
character is back in front, the second after it. -/
theorem delivers_each_byte_once_after_failure :
    LogRun.Reachable
        ⟨⟨[⟨none, [97]⟩, ⟨none, [195, 169]⟩], none, [97, 195, 169]⟩, none, [], [97, 195, 169]⟩ ∧
      (chunkBytes [] ++ LogRun.inFlight
          ⟨⟨[⟨none, [97]⟩, ⟨none, [195, 169]⟩], none, [97, 195, 169]⟩, none, [], [97, 195, 169]⟩ ++
          chunkBytes [⟨none, [97]⟩, ⟨none, [195, 169]⟩] = [97, 195, 169] ∧
        (∀ f s', (none : Option FlushInProgress) = some f → f.complete = true →
          LogStep ⟨⟨[⟨none, [97]⟩, ⟨none, [195, 169]⟩], none, [97, 195, 169]⟩, none, [],
            [97, 195, 169]⟩ .finish s' →
          chunkBytes s'.delivered = [97, 195, 169].take f.mark ∧
            chunkBytes s'.buffer.chunks = [97, 195, 169].drop f.mark) ∧
        (∀ s', LogStep ⟨⟨[⟨none, [97]⟩, ⟨none, [195, 169]⟩], none, [97, 195, 169]⟩, none, [],
            [97, 195, 169]⟩ .fail s' →
          s'.delivered = [] ∧
            chunkBytes s'.buffer.chunks = [97, 195, 169].drop (chunkBytes []).length)) := by
  have h : LogRun.Reachable
      ⟨⟨[⟨none, [97]⟩, ⟨none, [195, 169]⟩], none, [97, 195, 169]⟩, none, [], [97, 195, 169]⟩ :=
    .step (.step (.step (.step .opened (LogStep.write {} [97, 195]))
      (LogStep.take _ false rfl)) (LogStep.write _ [169]))
      (LogStep.fail _ false ⟨none, [97]⟩ [] 2 rfl)
  exact ⟨h, delivers_each_byte_once h⟩

/-! ## The worker's log operations are interleavings -/

/-- Any number of steps. -/
def Steps : LogRun → LogRun → Prop :=
  Relation.ReflTransGen fun s s' => ∃ e, LogStep s e s'

theorem Reachable.steps {s s' : LogRun} (hs : s.Reachable) (h : Steps s s') :
    s'.Reachable := by
  induction h with
  | refl => exact hs
  | tail _ step ih =>
      obtain ⟨e, step⟩ := step
      exact ih.step step

end LogRun

theorem LogWorld.write_buffer (w : LogWorld) (data : List UInt8) :
    (w.write data).log.buffer = w.log.buffer.append data := by
  unfold LogWorld.write
  split
  next hempty => rw [List.isEmpty_iff.mp hempty, LogBuffer.append_nil]
  next => rfl

/-- Writing to the worker's log is a write step. -/
theorem LogWorld.write_step (w : LogWorld) (data : List UInt8) (delivered : List Chunk)
    (written : List UInt8) :
    LogStep ⟨w.log.buffer, none, delivered, written⟩ (.write data)
      ⟨(w.write data).log.buffer, none, delivered, written ++ data⟩ := by
  rw [LogWorld.write_buffer]
  exact LogStep.write _ data

/-- Sending the chunks a flush took is a run of deliveries, ended by a failure or by
the end of the flush; the server records the text of each delivered chunk, in
order. -/
theorem sendChunks_steps (cs : List Chunk) (w : LogWorld) (complete : Bool) (mark : Nat)
    (delivered : List Chunk) (written : List UInt8) :
    ∃ sent, LogRun.Steps ⟨w.log.buffer, some ⟨complete, cs, mark⟩, delivered, written⟩
        ⟨(sendChunks cs w).2.log.buffer, none, delivered ++ sent, written⟩ ∧
      (sendChunks cs w).2.server.logs.map LogCall.text =
        w.server.logs.map LogCall.text ++ sent.map (fun c => Text.decodeLossy c.data) := by
  induction cs generalizing w delivered with
  | nil =>
      refine ⟨[], ?_, by simp [sendChunks]⟩
      simp only [sendChunks, List.append_nil]
      exact Relation.ReflTransGen.single ⟨.finish, LogStep.finish _ complete mark rfl⟩
  | cons c rest ih =>
      obtain ⟨⟨r, t, server⟩, hsend⟩ : ∃ res, w.transport.send w.server w.log.jobId
          (Text.decodeLossy c.data) c.sectionName = res := ⟨_, rfl⟩
      have hrec := LogTransport.send_records hsend
      cases r with
      | ok stop =>
          simp only [sendChunks, hsend]
          obtain ⟨sent, steps, texts⟩ := ih
            { w with transport := t, server := server,
                     log := { w.log with stopRequested := w.log.stopRequested || stop } }
            (delivered ++ [c])
          refine ⟨c :: sent, ?_, ?_⟩
          · rw [show delivered ++ c :: sent = delivered ++ [c] ++ sent by simp]
            exact Relation.ReflTransGen.head
              ⟨.deliver, LogStep.deliver _ complete c rest mark rfl⟩ steps
          · rw [texts]
            simp [MemoryQueue.Records, Except.isOk, Except.toBool] at hrec
            simp [hrec]
      | error e =>
          simp only [sendChunks, hsend]
          refine ⟨[], ?_, ?_⟩
          · rw [List.append_nil]
            exact Relation.ReflTransGen.single
              ⟨.fail, LogStep.fail _ complete c rest mark rfl⟩
          · simpa [MemoryQueue.Records, Except.isOk, Except.toBool] using hrec

/-- **A flush of the worker's log is a run of the log's steps,** and the server
records the text of each chunk it delivered. -/
theorem LogWorld.flush_steps (w : LogWorld) (complete : Bool) (delivered : List Chunk)
    (written : List UInt8) :
    ∃ sent, LogRun.Steps ⟨w.log.buffer, none, delivered, written⟩
        ⟨(w.flush complete).2.log.buffer, none, delivered ++ sent, written⟩ ∧
      (w.flush complete).2.server.logs.map LogCall.text =
        w.server.logs.map LogCall.text ++ sent.map (fun c => Text.decodeLossy c.data) := by
  obtain ⟨sent, steps, texts⟩ := sendChunks_steps (w.log.buffer.take complete).1
    { w with log := { w.log with buffer := (w.log.buffer.take complete).2 } }
    complete written.length delivered written
  exact ⟨sent, .head ⟨.take complete, LogStep.take _ complete rfl⟩ steps, texts⟩

/-- **Closing the worker's log is a run of the log's steps:** the flusher's last
ordinary flush if it still runs, then the flush that completes the log. -/
theorem LogWorld.close_steps (w : LogWorld) (delivered : List Chunk) (written : List UInt8) :
    ∃ sent, LogRun.Steps ⟨w.log.buffer, none, delivered, written⟩
        ⟨w.close.2.log.buffer, none, delivered ++ sent, written⟩ ∧
      w.close.2.server.logs.map LogCall.text =
        w.server.logs.map LogCall.text ++ sent.map (fun c => Text.decodeLossy c.data) := by
  unfold LogWorld.close
  split
  · obtain ⟨sent₁, steps₁, texts₁⟩ := w.flush_steps false delivered written
    obtain ⟨sent₂, steps₂, texts₂⟩ :=
      ({ (w.flush false).2 with log := { (w.flush false).2.log with flusherRunning := false } } :
        LogWorld).flush_steps true (delivered ++ sent₁) written
    refine ⟨sent₁ ++ sent₂, ?_, ?_⟩
    · rw [← List.append_assoc]
      exact steps₁.trans steps₂
    · rw [texts₂]
      simp [texts₁]
  · exact w.flush_steps true delivered written

end BuildWorker
