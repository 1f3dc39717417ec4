import BuildWorker.Log.Delivery
/-!
# Where the bytes of a build log are

A build log never changes a byte and never reorders two: each of its operations
only moves bytes between places, and this module says so one operation at a
time, with the bytes of a list of chunks (`chunkBytes`) as the measure.

* Writing adds the written bytes at the end (`LogBuffer.append_bytes`).  Output
  is cut into lines and pieces may join the last chunk or start a new one, but
  the cuts are only cuts (`splitLines_flatten`).
* Taking what is ready splits the buffer in two, the part taken first
  (`LogBuffer.take_bytes`): an unfinished character left behind is the end of
  the last chunk, cut where it starts.
* Putting unsent chunks back puts their bytes in front (`LogBuffer.requeue_bytes`).

On the server's side, a request to log a piece of text either succeeds and
records that text once, or fails and records nothing (`MemoryQueue.Records`).
This holds of a transport that falls back from tagged to plain output as well:
a tagged request the server does not know records nothing, and the plain one
that replaces it records the text once (`LogTransport.send_records`).
-/

set_option autoImplicit false

namespace BuildWorker

/-! ## The bytes of a list of chunks -/

/-- The bytes a list of chunks holds, in order. -/
def chunkBytes (cs : List Chunk) : List UInt8 := cs.flatMap Chunk.data

@[simp] theorem chunkBytes_nil : chunkBytes [] = [] := rfl

@[simp] theorem chunkBytes_cons (c : Chunk) (cs : List Chunk) :
    chunkBytes (c :: cs) = c.data ++ chunkBytes cs := rfl

@[simp] theorem chunkBytes_append (cs ds : List Chunk) :
    chunkBytes (cs ++ ds) = chunkBytes cs ++ chunkBytes ds := by
  simp [chunkBytes]

/-! ## Cutting output into lines -/

/-- The fold behind `splitLines` keeps the pieces so far and the current line, in
order, in front of what is still to be read. -/
theorem splitLines_fold_flatten (data : List UInt8) (pieces : List (List UInt8))
    (current : List UInt8) :
    let r := data.foldl (fun (acc : List (List UInt8) × List UInt8) b =>
      let (pieces, current) := acc
      if b == 10 then (pieces ++ [current ++ [b]], []) else (pieces, current ++ [b]))
      (pieces, current)
    r.1.flatten ++ r.2 = pieces.flatten ++ current ++ data := by
  induction data generalizing pieces current with
  | nil => simp
  | cons b rest ih =>
      simp only [List.foldl_cons]
      split
      · rw [ih]
        simp
      · rw [ih]
        simp

/-- **Cutting output into lines loses and adds nothing.** -/
theorem splitLines_flatten (data : List UInt8) : (splitLines data).flatten = data := by
  have h := splitLines_fold_flatten data [] []
  simp only [List.flatten_nil, List.nil_append, List.append_nil] at h
  unfold splitLines
  split
  next pieces current heq =>
    rw [heq] at h
    split
    next hc => simpa [List.isEmpty_iff.mp hc] using h
    next => simpa using h

namespace LogBuffer

/-! ## Each buffer operation moves bytes and keeps their order -/

theorem push_bytes (buf : LogBuffer) (piece : List UInt8) :
    chunkBytes (buf.push piece).chunks = chunkBytes buf.chunks ++ piece := by
  unfold push
  split
  next last hlast =>
    obtain ⟨ys, hys⟩ := List.getLast?_eq_some_iff.mp hlast
    split <;> simp [hys]
  next hnone =>
    simp [List.getLast?_eq_none_iff.mp hnone]

/-- Tracking the line and switching the section touch no chunk. -/
theorem appendPiece_bytes (buf : LogBuffer) (piece : List UInt8) :
    chunkBytes (buf.appendPiece piece).chunks = chunkBytes buf.chunks ++ piece := by
  unfold appendPiece
  rw [push_bytes]
  split <;> split <;> rfl

theorem foldl_appendPiece_bytes (pieces : List (List UInt8)) (buf : LogBuffer) :
    chunkBytes (pieces.foldl appendPiece buf).chunks =
      chunkBytes buf.chunks ++ pieces.flatten := by
  induction pieces generalizing buf with
  | nil => simp
  | cons p ps ih => simp [ih, appendPiece_bytes]

/-- **Writing adds the written bytes after everything buffered.** -/
theorem append_bytes (buf : LogBuffer) (data : List UInt8) :
    chunkBytes (buf.append data).chunks = chunkBytes buf.chunks ++ data := by
  rw [append, foldl_appendPiece_bytes, splitLines_flatten]

/-- Writing nothing leaves the buffer as it is. -/
theorem append_nil (buf : LogBuffer) : buf.append [] = buf := rfl

/-- **Taking splits the buffer: what is taken, then what stays.** -/
theorem take_bytes (buf : LogBuffer) (complete : Bool) :
    chunkBytes (buf.take complete).1 ++ chunkBytes (buf.take complete).2.chunks =
      chunkBytes buf.chunks := by
  unfold take
  dsimp only
  split
  · simp
  · split
    next hnone => simp
    next last hlast =>
      obtain ⟨ys, hys⟩ := List.getLast?_eq_some_iff.mp hlast
      -- the last chunk is cut where its unfinished character starts
      have hcut := List.take_append_drop (last.data.length - Text.incompleteTail last.data)
        last.data
      split
      · simp
      · split
        next hkept =>
          rw [List.isEmpty_iff.mp hkept, List.nil_append] at hcut
          simp [hys, hcut]
        next =>
          simp only [hys, List.dropLast_concat, chunkBytes_append, chunkBytes_cons,
            chunkBytes_nil, List.append_nil, List.nil_append, List.append_assoc]
          rw [hcut]

/-- Taking everything leaves no chunk behind. -/
theorem take_complete_chunks (buf : LogBuffer) : (buf.take true).2.chunks = [] := rfl

/-- **Unsent chunks go back in front of everything buffered since.** -/
theorem requeue_bytes (buf : LogBuffer) (unsent : List Chunk) :
    chunkBytes (buf.requeue unsent).chunks = chunkBytes unsent ++ chunkBytes buf.chunks := by
  simp [requeue]

end LogBuffer

/-! ## What a log request leaves on the server -/

/-- What a log request did to the server: one more delivered text when it
succeeded, nothing when it failed. -/
def MemoryQueue.Records (before after : MemoryQueue) (r : Except ServerError Bool)
    (text : String) : Prop :=
  after.logs.map LogCall.text = before.logs.map LogCall.text ++ (if r.isOk then [text] else [])

namespace MemoryQueue

theorem recordLog_records {s s' : MemoryQueue} {jobId text : String} {tags : Option LogTags}
    {r : Except ServerError Bool} (h : s.recordLog jobId text tags = (r, s')) :
    s.Records s' r text := by
  unfold recordLog at h
  by_cases hfail : s.failingLogCalls > 0
  · simp only [hfail, if_true, Prod.mk.injEq] at h
    obtain ⟨rfl, rfl⟩ := h
    simp [Records, Except.isOk, Except.toBool]
  · simp only [hfail, if_false, Prod.mk.injEq] at h
    obtain ⟨rfl, rfl⟩ := h
    simp [Records, Except.isOk, Except.toBool]

theorem logTagged_records {s s' : MemoryQueue} {jobId text : String} {tags : LogTags}
    {r : Except ServerError Bool} (h : s.logTagged jobId text tags = (r, s')) :
    s.Records s' r text := by
  unfold logTagged at h
  by_cases hun : s.taggedUnsupported = true
  · simp only [hun, if_true, Prod.mk.injEq] at h
    obtain ⟨rfl, rfl⟩ := h
    simp [Records, Except.isOk, Except.toBool]
  · simp only [hun] at h
    simpa [Records] using recordLog_records h

/-- A request that failed leaves nothing for a later one to be measured against. -/
theorem Records.then {s₁ s₂ s₃ : MemoryQueue} {e : ServerError} {r : Except ServerError Bool}
    {text : String} (first : s₁.Records s₂ (.error e) text) (second : s₂.Records s₃ r text) :
    s₁.Records s₃ r text := by
  simp only [Records, Except.isOk, Except.toBool, Bool.false_eq_true, if_false,
    List.append_nil] at first
  simp only [Records, first] at second ⊢
  exact second

end MemoryQueue

/-- **Sending a piece of output delivers it once when it succeeds and not at all when
it fails,** whichever endpoint takes it. -/
theorem LogTransport.send_records {t t' : LogTransport} {server server' : MemoryQueue}
    {jobId text : String} {sectionName : Option String} {r : Except ServerError Bool}
    (h : t.send server jobId text sectionName = (r, t', server')) :
    server.Records server' r text := by
  unfold LogTransport.send LogTransport.sendVia at h
  dsimp only [MemoryQueue.logEndpoints] at h
  by_cases htag : t.isTagged = true
  · simp only [htag, if_true] at h
    split at h
    next stop s heq =>
      simp only [Prod.mk.injEq] at h
      obtain ⟨rfl, -, rfl⟩ := h
      exact MemoryQueue.logTagged_records heq
    next detail s heq =>
      split at h
      · simp only [Prod.mk.injEq] at h
        obtain ⟨rfl, -, rfl⟩ := h
        exact MemoryQueue.logTagged_records heq
      · -- the endpoint is missing and never worked: the plain request replaces it
        simp only [MemoryQueue.log, Prod.mk.injEq] at h
        obtain ⟨rfl, -, rfl⟩ := h
        exact (MemoryQueue.logTagged_records heq).then (MemoryQueue.recordLog_records rfl)
    next e s _ heq =>
      simp only [Prod.mk.injEq] at h
      obtain ⟨rfl, -, rfl⟩ := h
      exact MemoryQueue.logTagged_records heq
  · simp only [htag, Bool.false_eq_true, if_false, MemoryQueue.log, Prod.mk.injEq] at h
    obtain ⟨rfl, -, rfl⟩ := h
    exact MemoryQueue.recordLog_records rfl

end BuildWorker
