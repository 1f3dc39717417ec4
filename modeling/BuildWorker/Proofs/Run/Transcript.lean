import Mathlib.Data.List.Sort
import BuildWorker.Run.Supervise
/-!
# What supervision writes

A supervised build's transcript is what its sink was given, in order.  Watching the
sink through `OutputSink.recording`, which keeps every write beside the sink's own
state and changes nothing else (`supervise_recording`), the transcript is:

* pieces of the build's output, in the order the build wrote them and without a gap,
  the whole of it when the build exited on its own (`Watch.walk_records`,
  `Moment.outputs_mergeSort`);
* then, when the build was stopped, the diagnostic of the cause, once, and nothing
  after it (`Supervised.ofStop_records`).

A stopped build's cause is never "exited" (`Watch.walk_stop_ne_exited`,
`dueCause_ne_exited`), so its diagnostic exists; a build that exited on its own had
exited, and reports its own code.  The main statement is `supervise_transcript`.

Besides, whatever every write and every periodic task of a sink keep, supervision
keeps (`supervise_preserves`).
-/

set_option autoImplicit false

namespace BuildWorker

/-! ## Recording the writes -/

/-- A sink that keeps, beside its own state, every write it is given, in order. -/
def OutputSink.recording {σ : Type} (out : OutputSink σ) : OutputSink (σ × List (List UInt8)) where
  write s bytes := (out.write s.1 bytes, s.2 ++ [bytes])
  stopRequested s := out.stopRequested s.1
  period := out.period
  onPeriod s := (out.onPeriod s.1, s.2)

/-- Supervision on a recording sink, with the record left out. -/
def Watch.forget {σ : Type} (w : Watch (σ × List (List UInt8))) : Watch σ :=
  { sink := w.sink.1, lastOutput := w.lastOutput, stop := w.stop }

/-- A build supervised into a recording sink, with the record left out. -/
def Supervised.forget {σ : Type} (r : Supervised (σ × List (List UInt8))) : Supervised σ :=
  { r with sink := r.sink.1 }

@[simp] theorem OutputSink.recording_period {σ : Type} (out : OutputSink σ) :
    out.recording.period = out.period := rfl

namespace Moment

/-- Whether a moment is a piece of output. -/
def isOutput : Moment → Bool
  | .output _ => true
  | _ => false

/-- The pieces of output among moments, in order. -/
def outputs : List (Nat × Moment) → List (List UInt8)
  | [] => []
  | (_, .output bytes) :: rest => bytes :: outputs rest
  | _ :: rest => outputs rest

@[simp] theorem outputs_nil : outputs [] = [] := rfl

@[simp] theorem outputs_cons_output (t : Nat) (bytes : List UInt8) (rest : List (Nat × Moment)) :
    outputs ((t, .output bytes) :: rest) = bytes :: outputs rest := rfl

theorem outputs_cons_of_ne {t : Nat} {m : Moment} (h : ∀ bytes, m = .output bytes → False)
    (rest : List (Nat × Moment)) : outputs ((t, m) :: rest) = outputs rest := by
  cases m with
  | output bytes => exact absurd rfl (h bytes)
  | period => rfl
  | poll => rfl

@[simp] theorem outputs_append (l l' : List (Nat × Moment)) :
    outputs (l ++ l') = outputs l ++ outputs l' := by
  induction l with
  | nil => rfl
  | cons x rest ih =>
      obtain ⟨t, m⟩ := x
      cases m <;> simp [outputs, ih]

/-- Only the output moments count. -/
theorem outputs_filter (l : List (Nat × Moment)) :
    outputs (l.filter (·.2.isOutput)) = outputs l := by
  induction l with
  | nil => rfl
  | cons x rest ih =>
      obtain ⟨t, m⟩ := x
      cases m with
      | output bytes => rw [List.filter_cons_of_pos rfl, outputs_cons_output, ih]; rfl
      | period => rw [List.filter_cons_of_neg (by simp [isOutput]), ih]; rfl
      | poll => rw [List.filter_cons_of_neg (by simp [isOutput]), ih]; rfl

end Moment

/-! ## Timers -/

/-- A fold that keeps its best so far or takes the element at hand ends on the start or
on an element. -/
theorem foldl_eq_start_or_mem {α : Type} (f : Option α → α → Option α)
    (hf : ∀ best x, f best x = best ∨ f best x = some x) :
    ∀ (l : List α) (best : Option α) (c : α), l.foldl f best = some c → best = some c ∨ c ∈ l
  | [], _, _, h => .inl h
  | x :: rest, best, c, h => by
      rcases foldl_eq_start_or_mem f hf rest (f best x) c h with hstart | hmem
      · rcases hf best x with hkeep | htake
        · exact .inl (hkeep ▸ hstart)
        · rw [htake] at hstart
          exact .inr (by simp [Option.some.inj hstart])
      · exact .inr (List.mem_cons_of_mem _ hmem)

/-- A fold that never drops a best once it has one, and takes an element that
qualifies when it has none, ends with one when an element qualifies. -/
theorem foldl_isSome_of_mem {α : Type} (f : Option α → α → Option α) (good : α → Prop)
    (hkeep : ∀ b x, (f (some b) x).isSome) (htake : ∀ x, good x → (f none x).isSome) :
    ∀ (l : List α) (best : Option α), (best.isSome ∨ ∃ x ∈ l, good x) →
      (l.foldl f best).isSome
  | [], _, h => by simpa using h
  | x :: rest, best, h => by
      apply foldl_isSome_of_mem f good hkeep htake rest
      rcases h with hbest | ⟨y, hy, hgood⟩
      · obtain ⟨b, rfl⟩ := Option.isSome_iff_exists.1 hbest
        exact .inl (hkeep b x)
      · rcases List.mem_cons.1 hy with rfl | hy
        · cases best with
          | some b => exact .inl (hkeep b y)
          | none => exact .inl (htake y hgood)
        · exact .inr ⟨y, hy, hgood⟩

/-- The cause due by a time is one of the timers. -/
theorem dueCause_mem {limits : Limits} {cancelAt : Option Nat} {lastOutput time : Nat}
    {c : Termination × Nat} (h : dueCause limits cancelAt lastOutput time = some c) :
    c ∈ timerCauses limits cancelAt lastOutput := by
  unfold dueCause at h
  refine (foldl_eq_start_or_mem _ (fun best x => ?_) _ none c h).resolve_left (by simp)
  split
  · split
    · split <;> simp
    · simp
  · simp

/-- A timer never says the build exited. -/
theorem dueCause_ne_exited {limits : Limits} {cancelAt : Option Nat} {lastOutput time t : Nat}
    {c : Termination} (h : dueCause limits cancelAt lastOutput time = some (c, t)) :
    c ≠ .exited := by
  rintro rfl
  have hmem := dueCause_mem h
  cases cancelAt <;> simp [timerCauses] at hmem

/-- A timer that has run out by a time makes a cause due by then. -/
theorem dueCause_isSome {limits : Limits} {cancelAt : Option Nat} {lastOutput time : Nat}
    (h : ∃ c ∈ timerCauses limits cancelAt lastOutput, c.2 ≤ time) :
    (dueCause limits cancelAt lastOutput time).isSome := by
  unfold dueCause
  refine foldl_isSome_of_mem _ (fun c => c.2 ≤ time) (fun b x => ?_) (fun x hx => ?_) _ none (.inr h)
  · dsimp only
    split
    · split <;> simp
    · simp
  · simp [hx]

/-! ## The walk through the moments -/

section Walk

variable {σ : Type} (out : OutputSink σ) (limits : Limits) (cancelAt : Option Nat)

/-- **The record does not change the walk**: supervision on a recording sink, seen
without the record, is supervision on the sink. -/
theorem Watch.walk_forget (w : Watch (σ × List (List UInt8))) (ms : List (Nat × Moment)) :
    (Watch.walk out.recording limits cancelAt w ms).forget =
      Watch.walk out limits cancelAt w.forget ms := by
  -- each branch of the walk is the same branch on both sides
  fun_induction Watch.walk out.recording limits cancelAt w ms <;>
    simp_all +zetaDelta [Watch.walk, Watch.forget, OutputSink.recording]

/-- The walk stops on a timer or on a request through the sink, never as an exit. -/
theorem Watch.walk_stop_ne_exited {τ : Type} (out' : OutputSink τ) (w : Watch τ)
    (ms : List (Nat × Moment)) (hw : ∀ c t, w.stop = some (c, t) → c ≠ .exited) :
    ∀ c t, (Watch.walk out' limits cancelAt w ms).stop = some (c, t) → c ≠ .exited := by
  fun_induction Watch.walk out' limits cancelAt w ms with
  | case6 w t m rest hstop cause hdue =>
      intro c t' h
      simp only [Option.some.injEq] at h
      exact dueCause_ne_exited (h ▸ hdue)
  | _ => simp_all +zetaDelta

/-- **The walk gives the sink output in order and without a gap**: a recording sink
gets a prefix of the moments' output, all of it when the walk ends without a stop. -/
theorem Watch.walk_records (w : Watch (σ × List (List UInt8))) (ms : List (Nat × Moment)) :
    ∃ pre, pre <+: Moment.outputs ms ∧
      (Watch.walk out.recording limits cancelAt w ms).sink.2 = w.sink.2 ++ pre ∧
      ((Watch.walk out.recording limits cancelAt w ms).stop = none → pre = Moment.outputs ms) := by
  fun_induction Watch.walk out.recording limits cancelAt w ms with
  | case1 w => exact ⟨[], List.nil_prefix, by simp, fun _ => rfl⟩
  | case2 w t rest k hstop bytes ht ih =>
      -- output drained after a request through the sink
      obtain ⟨pre, hpre, hsink, hall⟩ := ih
      refine ⟨bytes :: pre, List.cons_prefix_cons.2 ⟨rfl, hpre⟩, ?_, fun h => by simp [hall h]⟩
      rw [hsink]
      simp [OutputSink.recording]
  | case3 w t rest k hstop bytes ht =>
      exact ⟨[], List.nil_prefix, by simp, fun h => by simp [hstop] at h⟩
  | case4 w t m rest k hstop hm ih =>
      obtain ⟨pre, hpre, hsink, hall⟩ := ih
      rw [Moment.outputs_cons_of_ne hm]
      exact ⟨pre, hpre, hsink, hall⟩
  | case5 w t m rest stopped hcause hstop =>
      exact ⟨[], List.nil_prefix, by simp, fun h => by simp [hstop] at h⟩
  | case6 w t m rest hstop c hdue => exact ⟨[], List.nil_prefix, by simp, fun h => by simp at h⟩
  | case7 w t rest hstop hdue bytes sink w' hreq ih =>
      obtain ⟨pre, hpre, hsink, hall⟩ := ih
      refine ⟨bytes :: pre, List.cons_prefix_cons.2 ⟨rfl, hpre⟩, ?_, fun h => by simp [hall h]⟩
      rw [hsink]
      simp [w', sink, OutputSink.recording]
  | case8 w t rest hstop hdue bytes sink w' hreq ih =>
      obtain ⟨pre, hpre, hsink, hall⟩ := ih
      refine ⟨bytes :: pre, List.cons_prefix_cons.2 ⟨rfl, hpre⟩, ?_, fun h => by simp [hall h]⟩
      rw [hsink]
      simp [w', sink, OutputSink.recording]
  | case9 w t rest hstop hdue ih =>
      obtain ⟨pre, hpre, hsink, hall⟩ := ih
      refine ⟨pre, hpre, ?_, hall⟩
      rw [hsink]
      rfl
  | case10 w t rest hstop hdue hreq => exact ⟨[], List.nil_prefix, by simp, fun h => by simp at h⟩
  | case11 w t rest hstop hdue hreq ih => exact ih

end Walk

/-! ## Supervision keeps what its sink keeps -/

section Preserves

variable {σ : Type} (out : OutputSink σ) (P : σ → Prop)
  (write : ∀ s bytes, P s → P (out.write s bytes)) (period : ∀ s, P s → P (out.onPeriod s))
include write period

theorem Watch.walk_preserves (limits : Limits) (cancelAt : Option Nat) (w : Watch σ)
    (ms : List (Nat × Moment)) (hw : P w.sink) :
    P (Watch.walk out limits cancelAt w ms).sink := by
  fun_induction Watch.walk out limits cancelAt w ms <;> simp_all +zetaDelta

omit period in
theorem Supervised.ofStop_preserves (limits : Limits) (trace : Shell.Trace)
    (finish : Option Nat) (horizon : Nat) (w : Watch σ) (stop : Option (Termination × Nat))
    (hw : P w.sink) : P (Supervised.ofStop out limits trace finish horizon w stop).sink := by
  cases stop with
  | none => exact hw
  | some stopped => exact write _ _ hw

/-- **Supervision keeps what its sink keeps**: a property of the sink that every write
and every periodic task keep holds of the sink supervision ends with. -/
theorem supervise_preserves (sink : σ) (limits : Limits) (cancelAt : Option Nat)
    (trace : Shell.Trace) (hsink : P sink) :
    P (supervise out sink limits cancelAt trace).sink := by
  simp only [supervise]
  exact Supervised.ofStop_preserves out P write _ _ _ _ _ _
    (Watch.walk_preserves out P write period _ _ _ _ hsink)

end Preserves

/-! ## Moments in time order -/

namespace Moment

/-- Sorting keeps the output in its order when the output is already in order. -/
theorem outputs_mergeSort (le : Nat × Moment → Nat × Moment → Bool)
    (trans : ∀ a b c, le a b → le b c → le a c) (total : ∀ a b, le a b || le b a)
    (l : List (Nat × Moment)) (sorted : (l.filter (·.2.isOutput)).Pairwise (le · ·)) :
    outputs (l.mergeSort le) = outputs l := by
  have hsub := List.sublist_mergeSort trans total sorted (List.filter_sublist ..)
  have hself : (l.filter (·.2.isOutput)).filter (·.2.isOutput) = l.filter (·.2.isOutput) :=
    List.filter_eq_self.2 fun x hx => (List.mem_filter.1 hx).2
  have hperm := (List.mergeSort_perm l le).filter (·.2.isOutput)
  -- the output of the sorted moments is a sublist of the same length as the output
  have heq : l.filter (·.2.isOutput) = (l.mergeSort le).filter (·.2.isOutput) := by
    refine (hself ▸ hsub.filter fun x : Nat × Moment => x.2.isOutput).eq_of_length ?_
    exact hperm.length_eq.symm
  rw [← outputs_filter (l.mergeSort le), ← heq, outputs_filter]

/-- The order supervision walks moments in: by time, and at one time by rank. -/
theorem order_trans (a b c : Nat × Moment)
    (hab : (decide (a.1 < b.1) || a.1 == b.1 && decide (a.2.rank ≤ b.2.rank)) = true)
    (hbc : (decide (b.1 < c.1) || b.1 == c.1 && decide (b.2.rank ≤ c.2.rank)) = true) :
    (decide (a.1 < c.1) || a.1 == c.1 && decide (a.2.rank ≤ c.2.rank)) = true := by
  simp only [Bool.or_eq_true, decide_eq_true_eq, Bool.and_eq_true, beq_iff_eq] at *
  omega

theorem order_total (a b : Nat × Moment) :
    (decide (a.1 < b.1) || a.1 == b.1 && decide (a.2.rank ≤ b.2.rank) ||
      (decide (b.1 < a.1) || b.1 == a.1 && decide (b.2.rank ≤ a.2.rank))) = true := by
  simp only [Bool.or_eq_true, decide_eq_true_eq, Bool.and_eq_true, beq_iff_eq]
  omega

@[simp] theorem outputs_map_output (t : Nat) (bs : List (List UInt8)) :
    outputs (bs.map fun b => (t, Moment.output b)) = bs := by
  induction bs with
  | nil => rfl
  | cons b rest ih => simp [ih]

@[simp] theorem outputs_flatMap (written : List (Nat × List UInt8))
    (f : List UInt8 → List (List UInt8)) :
    outputs (written.flatMap fun x => (f x.2).map fun b => (x.1, Moment.output b)) =
      written.flatMap fun x => f x.2 := by
  induction written with
  | nil => rfl
  | cons piece rest ih => simp [ih]

/-- Moments that are not output give none. -/
theorem outputs_eq_nil {l : List (Nat × Moment)} (h : ∀ x ∈ l, x.2.isOutput = false) :
    outputs l = [] := by
  rw [← outputs_filter, List.filter_eq_nil_iff.2 fun x hx => by simp [h x hx]]
  rfl

/-- The output of supervision's moments is the build's output cut into reads, in the
order the build wrote it. -/
theorem outputs_supervision (written : List (Nat × List UInt8)) (ps qs : List (Nat × Moment))
    (ordered : written.Pairwise fun a b => a.1 ≤ b.1)
    (hps : ∀ x ∈ ps, x.2.isOutput = false) (hqs : ∀ x ∈ qs, x.2.isOutput = false) :
    outputs ((written.flatMap (fun x => (cutReads x.2).map fun b => (x.1, Moment.output b)) ++
        ps ++ qs).mergeSort fun a b =>
          decide (a.1 < b.1) || a.1 == b.1 && decide (a.2.rank ≤ b.2.rank)) =
      written.flatMap fun piece => cutReads piece.2 := by
  have houts : ∀ x ∈ written.flatMap (fun x => (cutReads x.2).map fun b => (x.1, Moment.output b)),
      x.2.isOutput = true := by
    intro x hx
    obtain ⟨piece, -, hx⟩ := List.mem_flatMap.1 hx
    obtain ⟨b, -, rfl⟩ := List.mem_map.1 hx
    rfl
  have hfilter : (written.flatMap (fun x => (cutReads x.2).map fun b => (x.1, Moment.output b)) ++
      ps ++ qs).filter (·.2.isOutput) =
      written.flatMap (fun x => (cutReads x.2).map fun b => (x.1, Moment.output b)) := by
    rw [List.filter_append, List.filter_append, List.filter_eq_self.2 houts,
      List.filter_eq_nil_iff.2 fun x hx => by simp [hps x hx],
      List.filter_eq_nil_iff.2 fun x hx => by simp [hqs x hx]]
    simp
  rw [outputs_mergeSort _ order_trans order_total _ ?sorted]
  case sorted =>
    -- reads of one piece share its time; pieces are in time order
    rw [hfilter, List.pairwise_flatMap]
    refine ⟨fun piece _ => ?_, ordered.imp fun {a₁ a₂} (hle : a₁.1 ≤ a₂.1) x hx y hy => ?_⟩
    · exact List.pairwise_map.2 (List.pairwise_of_forall fun _ _ => by simp [rank])
    · obtain ⟨b, -, rfl⟩ := List.mem_map.1 hx
      obtain ⟨b', -, rfl⟩ := List.mem_map.1 hy
      simp only [rank, Bool.or_eq_true, decide_eq_true_eq, Bool.and_eq_true, beq_iff_eq,
        Nat.le_refl, and_true]
      omega
  rw [outputs_append, outputs_append, outputs_eq_nil hps, outputs_eq_nil hqs]
  simp

end Moment

/-! ## Ending supervision -/

/-- Exactly the causes of a stop have a diagnostic. -/
@[simp] theorem Termination.message_isSome (limits : Limits) (c : Termination) :
    (c.message limits).isSome ↔ c ≠ .exited := by
  cases c <;> simp [Termination.message]

/-- By the horizon of supervision the total time limit has run out. -/
theorem timeout_due_by_horizon (limits : Limits) (cancelAt : Option Nat) (lastOutput : Nat) :
    ∃ c ∈ timerCauses limits cancelAt lastOutput, c.2 ≤ (match cancelAt with
      | some c => min c (limits.timeoutMs * 1000)
      | none => limits.timeoutMs * 1000) := by
  cases cancelAt with
  | none => exact ⟨(.timeout, _), by simp [timerCauses], le_rfl⟩
  | some c =>
      -- the horizon is the shutdown or the time limit, whichever comes first
      rcases Nat.le_total c (limits.timeoutMs * 1000) with h | h
      · exact ⟨(.shutdown, c), by simp [timerCauses], (Nat.min_eq_left h).ge⟩
      · exact ⟨(.timeout, _), by simp [timerCauses], (Nat.min_eq_right h).ge⟩

/-- **The diagnostic comes last, once**: a build stopped on a cause gives a recording
sink the cause's diagnostic after everything else. -/
theorem Supervised.ofStop_records {σ : Type} (out : OutputSink σ) (limits : Limits)
    (trace : Shell.Trace) (finish : Option Nat) (horizon : Nat)
    (w : Watch (σ × List (List UInt8))) {c : Termination} (t : Nat) (hc : c ≠ .exited) :
    (Supervised.ofStop out.recording limits trace finish horizon w (some (c, t))).sink.2 =
      w.sink.2 ++ ((c.message limits).map Text.encode).toList := by
  obtain ⟨msg, hmsg⟩ := Option.isSome_iff_exists.1 ((Termination.message_isSome limits c).2 hc)
  simp [Supervised.ofStop, OutputSink.recording, hmsg]

/-- Ending on the same stop, with and without the record. -/
theorem Supervised.ofStop_forget {σ : Type} (out : OutputSink σ) (limits : Limits)
    (trace : Shell.Trace) (finish : Option Nat) (horizon : Nat)
    (w : Watch (σ × List (List UInt8))) (stop : Option (Termination × Nat)) :
    (Supervised.ofStop out.recording limits trace finish horizon w stop).forget =
      Supervised.ofStop out limits trace finish horizon w.forget stop := by
  cases stop with
  | none => rfl
  | some stopped =>
      obtain ⟨c, t⟩ := stopped
      rfl

/-- **The record changes nothing**: supervising into a recording sink and leaving the
record out is supervising into the sink. -/
theorem supervise_recording {σ : Type} (out : OutputSink σ) (sink : σ)
    (log : List (List UInt8)) (limits : Limits) (cancelAt : Option Nat) (trace : Shell.Trace) :
    (supervise out.recording (sink, log) limits cancelAt trace).forget =
      supervise out sink limits cancelAt trace := by
  simp only [supervise, OutputSink.recording_period]
  -- both walk the same moments, the walk on the record forgetting to the plain walk
  generalize List.mergeSort _ _ = ms
  have hwalk := Watch.walk_forget out limits cancelAt { sink := (sink, log) } ms
  generalize Watch.walk out.recording limits cancelAt { sink := (sink, log) } ms = w at hwalk ⊢
  rw [show ({ sink := sink } : Watch σ) = Watch.forget { sink := (sink, log) } from rfl, ← hwalk]
  exact Supervised.ofStop_forget _ _ _ _ _ _ _

/-- **What supervision writes**: a recording sink gets the build's output, cut into
reads, in the order the build wrote it and without a gap, then the diagnostic of the
cause when the build was stopped, and nothing after it.  A stopped build has a
diagnostic, and one that exited has none; a build that exited gave the sink all its
output, had exited, and reports its own code. -/
theorem supervise_transcript {σ : Type} (out : OutputSink σ) (sink : σ) (limits : Limits)
    (cancelAt : Option Nat) (trace : Shell.Trace)
    (ordered : trace.written.Pairwise fun a b => a.1 ≤ b.1) :
    let r := supervise out.recording (sink, []) limits cancelAt trace
    let reads := trace.written.flatMap fun piece => cutReads piece.2
    ∃ pre, pre <+: reads ∧
      r.sink.2 = pre ++ ((r.termination.message limits).map Text.encode).toList ∧
      ((r.termination.message limits).isSome ↔ r.termination ≠ .exited) ∧
      (r.termination = .exited → pre = reads ∧ ∃ t, trace.exit = some (t, r.exitCode)) := by
  intro r reads
  simp only [r, supervise]
  generalize hms : List.mergeSort (_ ++ _ ++ _) _ = ms
  -- the moments hold the output in the order it was written, and nothing else writes
  have houts : Moment.outputs ms = reads := by
    rw [← hms]
    refine Moment.outputs_supervision _ _ _ ordered (fun x hx => ?_) (fun x hx => ?_)
    · simp only [OutputSink.recording] at hx
      cases hp : out.period with
      | none => simp [hp] at hx
      | some p =>
          by_cases hp0 : (p == 0) = true
          · simp [hp, hp0] at hx
          · simp only [hp, hp0, Bool.false_eq_true, if_false, List.mem_filterMap,
              Option.ite_none_right_eq_some, Option.some.injEq] at hx
            obtain ⟨k, -, -, rfl⟩ := hx
            rfl
    · obtain ⟨k, -, rfl⟩ := List.mem_map.1 hx
      rfl
  generalize hw : Watch.walk out.recording limits cancelAt { sink := (sink, []) } ms = w
  obtain ⟨pre, hpre, hsink, hall⟩ :=
    Watch.walk_records out limits cancelAt { sink := (sink, []) } ms
  have hwstop := Watch.walk_stop_ne_exited limits cancelAt out.recording
    { sink := (sink, []) } ms (by simp)
  rw [hw] at hsink hall hwstop
  rw [houts] at hpre hall
  simp only [List.nil_append] at hsink
  refine ⟨pre, hpre, ?_⟩
  -- a stop on a cause: its diagnostic follows the output, and it is no exit
  have stopped : ∀ finish horizon c t, c ≠ .exited →
      let r := Supervised.ofStop out.recording limits trace finish horizon w (some (c, t))
      r.sink.2 = pre ++ ((r.termination.message limits).map Text.encode).toList ∧
        ((r.termination.message limits).isSome ↔ r.termination ≠ .exited) ∧
        (r.termination = .exited → pre = reads ∧ ∃ t, trace.exit = some (t, r.exitCode)) :=
    fun finish horizon c t hc =>
      ⟨by rw [Supervised.ofStop_records _ _ _ _ _ _ _ hc, hsink]; rfl,
        Termination.message_isSome _ _,
        fun h => absurd h hc⟩
  rcases hws : w.stop with _ | ⟨c, t⟩
  case some => exact stopped _ _ c t (hwstop c t hws)
  dsimp only
  rcases hf : trace.exit.bind (fun a => Option.map (max a.1) trace.closed) with _ | e
  case none =>
    -- a run that never ended is stopped by the horizon at the latest
    generalize hd : dueCause limits cancelAt w.lastOutput _ = stop
    have hsome : stop.isSome := by
      rw [← hd]
      exact dueCause_isSome (timeout_due_by_horizon limits cancelAt w.lastOutput)
    obtain ⟨⟨c, t⟩, rfl⟩ := Option.isSome_iff_exists.1 hsome
    exact stopped _ _ c t (dueCause_ne_exited hd)
  dsimp only
  rcases hd : dueCause limits cancelAt w.lastOutput e with _ | ⟨c, t⟩
  case some => exact stopped _ _ c t (dueCause_ne_exited hd)
  -- no cause came: the run exited, and all its output went to the sink
  obtain ⟨⟨t, code⟩, hexit, -⟩ := Option.bind_eq_some_iff.1 hf
  refine ⟨by simp [Supervised.ofStop, hsink, Termination.message], Termination.message_isSome _ _,
    fun _ => ⟨hall hws, t, ?_⟩⟩
  simp [Supervised.ofStop, hexit]

/-- Two pieces of output a second apart, then an exit with code 3, into a sink that
never asks to stop. -/
theorem supervise_transcript_two_pieces :
    let trace : Shell.Trace :=
      { written := [(0, [65]), (1000000, [66])], exit := some (2000000, 3),
        closed := some 2000000, files := {} }
    let out : OutputSink Unit := { write := fun _ _ => (), stopRequested := fun _ => false }
    let limits : Limits := { timeoutMs := 60000, idleMs := 10000 }
    (trace.written.Pairwise fun a b => a.1 ≤ b.1) ∧
      let r := supervise out.recording ((), []) limits none trace
      let reads := trace.written.flatMap fun piece => cutReads piece.2
      ∃ pre, pre <+: reads ∧
        r.sink.2 = pre ++ ((r.termination.message limits).map Text.encode).toList ∧
        ((r.termination.message limits).isSome ↔ r.termination ≠ .exited) ∧
        (r.termination = .exited → pre = reads ∧ ∃ t, trace.exit = some (t, r.exitCode)) := by
  intro trace out limits
  have ordered : trace.written.Pairwise fun a b => a.1 ≤ b.1 := by decide
  exact ⟨ordered, supervise_transcript out () limits none trace ordered⟩

end BuildWorker
