import BuildWorker.Log.Delivery
/-!
# Falling back from tagged to plain output

The transport that all of a worker's builds share sends each piece of output to the
tagged endpoint first.  The first answer that the tagged endpoint does not exist,
given before any tagged request has worked, turns the transport to plain output for
good; once a tagged request has worked, the same answer means the job or the worker
is gone, and it goes back to the caller.

Here the transport runs against any server at all: the server's state and its answers
are arbitrary, and each request it gets is noted with its answer
(`LogEndpoints.noting`).  A run of sends (`LogTransport.sendAll`) leaves one
`SendRecord` per send: the transport before and after it, the requests it made with
their answers, and what it returned.

* `SendShape` lists the five things one send can do, and `sendNoted_shaped` shows that
  every send does one of them.  Every fact about a single send is read off this list.
* `sendAll_flags` follows the transport's two flags along a run: tagged output has
  worked once some tagged request worked, and it is given up once some send found the
  tagged endpoint missing before any tagged request had worked
  (`missingBeforeWorking`).
* `LogTransport.falls_back_once` is the main statement: which sends try the tagged
  endpoint, that the transport turns to plain output at most once and never back,
  that a missing endpoint after tagged output worked is an error for the caller, and
  that each send that succeeds made exactly one successful request carrying its text,
  and each send that fails made none.
-/

set_option autoImplicit false

namespace BuildWorker

/-! ## Requests as the server sees them -/

/-- A request to one of the two output endpoints. -/
inductive LogRequest where
  | tagged (jobId text : String) (tags : LogTags)
  | plain (jobId text : String)
  deriving DecidableEq, Repr

/-- Whether a request went to the tagged endpoint. -/
def LogRequest.isTagged : LogRequest → Bool
  | .tagged .. => true
  | .plain .. => false

/-- A request with the server's answer. -/
abbrev LogExchange := LogRequest × Except ServerError Bool

/-- A tagged request that worked. -/
def LogExchange.taggedWorked : LogExchange → Bool
  | (.tagged .., .ok _) => true
  | _ => false

/-- A tagged request answered with "not found". -/
def LogExchange.taggedMissing : LogExchange → Bool
  | (.tagged .., .error (.notFound _)) => true
  | _ => false

/-- A server's endpoints that also note each request with its answer. -/
def LogEndpoints.noting {σ : Type} (api : LogEndpoints σ) :
    LogEndpoints (σ × List LogExchange) where
  tagged s jobId text tags :=
    let (r, server) := api.tagged s.1 jobId text tags
    (r, server, s.2 ++ [(.tagged jobId text tags, r)])
  plain s jobId text :=
    let (r, server) := api.plain s.1 jobId text
    (r, server, s.2 ++ [(.plain jobId text, r)])

/-! ## What one send can do -/

/-- A piece of output to send: the job, the text, and its section. -/
structure LogPiece where
  jobId : String
  text : String
  sectionName : Option String

/-- What one send of a piece can do from a transport: the requests it makes with their
answers, what it returns, and the transport after it. -/
inductive SendShape (p : LogPiece) (t : LogTransport) :
    List LogExchange → Except ServerError Bool → LogTransport → Prop
  /-- The tagged request works. -/
  | worked (stop : Bool) : t.isTagged = true →
      SendShape p t [(.tagged p.jobId p.text (sectionTags p.sectionName), .ok stop)] (.ok stop)
        { t with taggedSucceeded := true }
  /-- The tagged endpoint is missing after tagged output worked: the job or the worker
  is gone. -/
  | gone (detail : String) : t.isTagged = true → t.taggedSucceeded = true →
      SendShape p t
        [(.tagged p.jobId p.text (sectionTags p.sectionName), .error (.notFound detail))]
        (.error (.notFound detail)) t
  /-- The tagged endpoint is missing and never worked: the piece goes plain, and so does
  everything after it. -/
  | fallback (detail : String) (r : Except ServerError Bool) :
      t.isTagged = true → t.taggedSucceeded = false →
      SendShape p t
        [(.tagged p.jobId p.text (sectionTags p.sectionName), .error (.notFound detail)),
          (.plain p.jobId p.text, r)]
        r { t with taggedDisabled := true }
  /-- The tagged request fails in another way. -/
  | failed (e : ServerError) : t.isTagged = true → e.isNotFound = false →
      SendShape p t [(.tagged p.jobId p.text (sectionTags p.sectionName), .error e)] (.error e) t
  /-- The transport is plain already. -/
  | plain (r : Except ServerError Bool) : t.isTagged = false →
      SendShape p t [(.plain p.jobId p.text, r)] r t

/-! ## Facts about one send -/

namespace SendShape

variable {p : LogPiece} {t t' : LogTransport} {xs : List LogExchange}
  {r : Except ServerError Bool}

/-- A send tries the tagged endpoint exactly when the transport is tagged. -/
theorem triedTagged (h : SendShape p t xs r t') : xs.any (·.1.isTagged) = t.isTagged := by
  cases h <;> simp_all [LogRequest.isTagged]

/-- Tagged output has worked after a send iff it had before or worked in the send. -/
theorem succeeded (h : SendShape p t xs r t') :
    t'.taggedSucceeded = (t.taggedSucceeded || xs.any LogExchange.taggedWorked) := by
  cases h <;> simp_all [LogExchange.taggedWorked]

/-- Tagged output is given up after a send iff it was before, or the send found the
tagged endpoint missing while tagged output had never worked. -/
theorem disabled (h : SendShape p t xs r t') :
    t'.taggedDisabled =
      (t.taggedDisabled || (!t.taggedSucceeded && xs.any LogExchange.taggedMissing)) := by
  cases h with
  | worked => simp [LogExchange.taggedMissing]
  | gone _ _ hsucc => simp [hsucc]
  | fallback _ _ _ hsucc => simp [hsucc, LogExchange.taggedMissing]
  | failed e _ he => cases e <;> simp_all [LogExchange.taggedMissing, ServerError.isNotFound]
  | plain => simp [LogExchange.taggedMissing]

/-- A send never turns a plain transport back to tagged output. -/
theorem tagged_of_tagged (h : SendShape p t xs r t') (after : t'.isTagged = true) :
    t.isTagged = true := by
  cases h <;> simp_all [LogTransport.isTagged]

/-- Once tagged output has worked, a missing tagged endpoint is returned to the caller
and leaves the transport as it was. -/
theorem missing_after_working (h : SendShape p t xs r t') (worked : t.taggedSucceeded = true)
    {x : LogExchange} (hx : x ∈ xs) (missing : x.taggedMissing = true) :
    r = x.2 ∧ t' = t := by
  cases h with
  | worked => simp_all [LogExchange.taggedMissing]
  | gone => simp_all
  | fallback _ _ _ hsucc => simp_all
  | failed => simp_all [LogExchange.taggedMissing]
  | plain => simp_all [LogExchange.taggedMissing]

/-- A send that succeeds made exactly one successful request, and it carried the
piece's text: tagged, with the section as its `section` tag, while the transport stays
tagged; plain otherwise. -/
theorem ok_one_success (h : SendShape p t xs r t') {stop : Bool} (ok : r = .ok stop) :
    ∃ req, xs.filter (·.2.isOk) = [(req, .ok stop)] ∧
      if t'.isTagged then
        ∃ tags, req = .tagged p.jobId p.text tags ∧ tags.lookup "section" = p.sectionName
      else req = .plain p.jobId p.text := by
  have section_tag : (sectionTags p.sectionName).lookup "section" = p.sectionName := by
    cases p.sectionName <;> simp [sectionTags]
  cases h with
  | worked stop' htag =>
    cases ok
    have still : ({ t with taggedSucceeded := true } : LogTransport).isTagged = true := htag
    refine ⟨.tagged p.jobId p.text (sectionTags p.sectionName), by simp [Except.isOk, Except.toBool], ?_⟩
    rw [if_pos still]
    exact ⟨_, rfl, section_tag⟩
  | gone => cases ok
  | fallback detail r' =>
    subst ok
    refine ⟨.plain p.jobId p.text, by simp [Except.isOk, Except.toBool], ?_⟩
    rw [if_neg (by simp [LogTransport.isTagged])]
  | failed => cases ok
  | plain r' htag =>
    subst ok
    refine ⟨.plain p.jobId p.text, by simp [Except.isOk, Except.toBool], ?_⟩
    rw [if_neg (by simp [htag])]

/-- A send that fails made no successful request. -/
theorem error_no_success (h : SendShape p t xs r t') {e : ServerError} (err : r = .error e) :
    ∀ x ∈ xs, x.2.isOk = false := by
  cases h with
  | worked => cases err
  | gone => cases err; simp [Except.isOk, Except.toBool]
  | fallback => subst err; simp [Except.isOk, Except.toBool]
  | failed => cases err; simp [Except.isOk, Except.toBool]
  | plain => subst err; simp [Except.isOk, Except.toBool]

end SendShape

/-! ## Runs of sends -/

/-- One send as it went: the piece, the transport before and after it, the requests it
made with their answers, and what it returned. -/
structure SendRecord where
  piece : LogPiece
  before : LogTransport
  after : LogTransport
  exchanges : List LogExchange
  result : Except ServerError Bool

/-- The five things a send can do, for a record. -/
def SendRecord.Shaped (r : SendRecord) : Prop :=
  SendShape r.piece r.before r.exchanges r.result r.after

variable {σ : Type} (api : LogEndpoints σ)

/-- One send of a piece through a server's endpoints, noted: its record, and the
server after it. -/
def LogTransport.sendNoted (t : LogTransport) (server : σ) (p : LogPiece) : SendRecord × σ :=
  let sent := t.sendVia api.noting (server, []) p.jobId p.text p.sectionName
  (⟨p, t, sent.2.1, sent.2.2.2, sent.1⟩, sent.2.2.1)

/-- Sends pieces one after another through a server's endpoints, noting each send. -/
def LogTransport.sendAll : LogTransport → σ → List LogPiece → List SendRecord
  | _, _, [] => []
  | t, server, p :: ps =>
      let sent := t.sendNoted api server p
      sent.1 :: LogTransport.sendAll sent.1.after sent.2 ps

@[simp] theorem sendNoted_piece (t : LogTransport) (server : σ) (p : LogPiece) :
    (t.sendNoted api server p).1.piece = p := rfl

@[simp] theorem sendNoted_before (t : LogTransport) (server : σ) (p : LogPiece) :
    (t.sendNoted api server p).1.before = t := rfl

@[simp] theorem sendAll_nil (t : LogTransport) (server : σ) :
    LogTransport.sendAll api t server [] = [] := rfl

@[simp] theorem sendAll_cons (t : LogTransport) (server : σ) (p : LogPiece)
    (ps : List LogPiece) :
    LogTransport.sendAll api t server (p :: ps) =
      (t.sendNoted api server p).1 ::
        LogTransport.sendAll api (t.sendNoted api server p).1.after
          (t.sendNoted api server p).2 ps := rfl

/-- **Every send does one of the five things `SendShape` lists.** -/
theorem sendNoted_shaped (t : LogTransport) (server : σ) (p : LogPiece) :
    (t.sendNoted api server p).1.Shaped := by
  unfold LogTransport.sendNoted SendRecord.Shaped LogTransport.sendVia LogEndpoints.noting
  cases htag : t.isTagged with
  | false => simpa using SendShape.plain _ htag
  | true =>
    simp only [if_true, List.nil_append]
    rcases hanswer : api.tagged server p.jobId p.text (sectionTags p.sectionName) with
      ⟨answer, server'⟩
    cases answer with
    | ok stop => simpa [hanswer] using SendShape.worked stop htag
    | error e =>
      cases e with
      | notFound detail =>
        cases hsucc : t.taggedSucceeded with
        | true => simpa [hanswer, hsucc] using SendShape.gone detail htag hsucc
        | false => simpa [hanswer, hsucc] using SendShape.fallback detail _ htag hsucc
      | _ => simpa [hanswer] using SendShape.failed _ htag rfl

/-- Whether some send of a history found the tagged endpoint missing while no tagged
request of an earlier send had worked. -/
def missingBeforeWorking : List SendRecord → Bool
  | [] => false
  | r :: rs =>
      r.exchanges.any LogExchange.taggedMissing ||
        (!r.exchanges.any LogExchange.taggedWorked && missingBeforeWorking rs)

/-- Every send of a run does one of the five things a send can do. -/
theorem sendAll_shaped (t : LogTransport) (server : σ) (ps : List LogPiece) :
    ∀ r ∈ LogTransport.sendAll api t server ps, r.Shaped := by
  induction ps generalizing t server with
  | nil => simp
  | cons p ps ih =>
    intro r hr
    rw [sendAll_cons, List.mem_cons] at hr
    rcases hr with rfl | hr
    · exact sendNoted_shaped api t server p
    · exact ih _ _ r hr

/-- A plain transport stays plain for the whole run. -/
theorem sendAll_plain (t : LogTransport) (server : σ) (ps : List LogPiece)
    (plain : t.isTagged = false) :
    ∀ r ∈ LogTransport.sendAll api t server ps, r.before.isTagged = false := by
  induction ps generalizing t server with
  | nil => simp
  | cons p ps ih =>
    intro r hr
    rw [sendAll_cons, List.mem_cons] at hr
    rcases hr with rfl | hr
    · exact plain
    · -- the send cannot turn the transport back to tagged output
      have still : (t.sendNoted api server p).1.after.isTagged = false := by
        cases h : (t.sendNoted api server p).1.after.isTagged
        · rfl
        · have := (sendNoted_shaped api t server p).tagged_of_tagged h
          simp_all
      exact ih _ _ still r hr

/-- **The transport's two flags along a run.**  Tagged output has worked before a send
iff it had at the start or a tagged request of an earlier send worked; it is given up
iff it was at the start, or it had not worked at the start and an earlier send found
the tagged endpoint missing before any tagged request had worked. -/
theorem sendAll_flags (t : LogTransport) (server : σ) (ps : List LogPiece) (i : Nat)
    (hi : i < (LogTransport.sendAll api t server ps).length) :
    (LogTransport.sendAll api t server ps)[i].before.taggedSucceeded =
        (t.taggedSucceeded || ((LogTransport.sendAll api t server ps).take i).any
          (·.exchanges.any LogExchange.taggedWorked)) ∧
      (LogTransport.sendAll api t server ps)[i].before.taggedDisabled =
        (t.taggedDisabled || (!t.taggedSucceeded &&
          missingBeforeWorking ((LogTransport.sendAll api t server ps).take i))) := by
  induction ps generalizing t server i with
  | nil => simp at hi
  | cons p ps ih =>
    cases i with
    | zero => simp [missingBeforeWorking]
    | succ i =>
      have shape := sendNoted_shaped api t server p
      obtain ⟨worked, given_up⟩ :=
        ih (t.sendNoted api server p).1.after (t.sendNoted api server p).2 i (by simpa using hi)
      simp only [sendAll_cons, List.getElem_cons_succ, List.take_succ_cons, List.any_cons,
        missingBeforeWorking]
      rw [worked, given_up, shape.succeeded, shape.disabled]
      simp only [sendNoted_before]
      constructor
      · simp [Bool.or_assoc]
      · cases t.taggedSucceeded <;> simp [Bool.or_assoc]

/-- **The transport is tagged for a first stretch of sends and plain for the rest.** -/
theorem sendAll_tagged_prefix (t : LogTransport) (server : σ) (ps : List LogPiece) :
    ∃ n, ∀ i (hi : i < (LogTransport.sendAll api t server ps).length),
      (LogTransport.sendAll api t server ps)[i].before.isTagged = decide (i < n) := by
  induction ps generalizing t server with
  | nil => exact ⟨0, by simp⟩
  | cons p ps ih =>
    have shape := sendNoted_shaped api t server p
    obtain ⟨n, rest⟩ := ih (t.sendNoted api server p).1.after (t.sendNoted api server p).2
    cases after : (t.sendNoted api server p).1.after.isTagged with
    | true =>
      -- still tagged after the first send: the stretch is one longer
      have first : t.isTagged = true := shape.tagged_of_tagged after
      refine ⟨n + 1, fun i hi => ?_⟩
      cases i with
      | zero => simpa using first
      | succ i => simpa using rest i (by simpa using hi)
    | false =>
      -- plain after the first send: plain for the rest of the run
      have plain := sendAll_plain api _ (t.sendNoted api server p).2 ps after
      refine ⟨if t.isTagged then 1 else 0, fun i hi => ?_⟩
      cases i with
      | zero => cases htag : t.isTagged <;> simp [htag]
      | succ i =>
        have := plain _ (List.getElem_mem (by simpa using hi))
        cases t.isTagged <;> simpa using this

/-! ## The fallback over a whole run -/

/-- **The transport falls back to plain output at most once, and only for a tagged
endpoint that never worked.**  Over any run of sends from a fresh transport, against
any server:

* a send tries the tagged endpoint iff no earlier send found it missing while no
  tagged request had yet worked;
* the transport is tagged for a first stretch of sends and plain for all the rest:
  it turns plain at most once and never turns back;
* once a tagged request has worked, a later answer that the tagged endpoint is missing
  goes back to the caller, and the transport stays tagged;
* a send that succeeds made exactly one successful request, carrying its job and
  text: tagged, with its section as the `section` tag, while the transport stays
  tagged, and plain otherwise;
* a send that fails made no successful request. -/
theorem LogTransport.falls_back_once (server : σ) (pieces : List LogPiece) :
    let rs := LogTransport.sendAll api {} server pieces
    (∀ i (hi : i < rs.length),
      rs[i].exchanges.any (·.1.isTagged) = !missingBeforeWorking (rs.take i)) ∧
    (∃ n, ∀ i (hi : i < rs.length), rs[i].before.isTagged = decide (i < n)) ∧
    (∀ i (hi : i < rs.length),
      (rs.take i).any (·.exchanges.any LogExchange.taggedWorked) = true →
        ∀ x ∈ rs[i].exchanges, x.taggedMissing = true →
          rs[i].result = x.2 ∧ rs[i].after.isTagged = true) ∧
    (∀ r ∈ rs, ∀ stop, r.result = .ok stop →
      ∃ req, r.exchanges.filter (·.2.isOk) = [(req, .ok stop)] ∧
        if r.after.isTagged then
          ∃ tags, req = .tagged r.piece.jobId r.piece.text tags ∧
            tags.lookup "section" = r.piece.sectionName
        else req = .plain r.piece.jobId r.piece.text) ∧
    (∀ r ∈ rs, ∀ e, r.result = .error e → ∀ x ∈ r.exchanges, x.2.isOk = false) := by
  intro rs
  have shaped := sendAll_shaped api {} server pieces
  refine ⟨fun i hi => ?_, sendAll_tagged_prefix api {} server pieces, fun i hi worked => ?_,
    fun r hr stop ok => (shaped r hr).ok_one_success ok,
    fun r hr e err => (shaped r hr).error_no_success err⟩
  · -- tagged exactly while not given up
    rw [(shaped _ (List.getElem_mem hi)).triedTagged, LogTransport.isTagged,
      (sendAll_flags api {} server pieces i hi).2]
    simp only [Bool.false_or, Bool.not_false, Bool.true_and]
    rfl
  · intro x hx missing
    have shape := shaped _ (List.getElem_mem hi)
    have before : rs[i].before.taggedSucceeded = true := by
      rw [(sendAll_flags api {} server pieces i hi).1]
      simpa using worked
    obtain ⟨returned, same⟩ := shape.missing_after_working before hx missing
    -- the missing answer came from a tagged request, so the transport was tagged
    have tried : rs[i].exchanges.any (·.1.isTagged) = true := by
      refine List.any_eq_true.2 ⟨x, hx, ?_⟩
      rcases x with ⟨_ | _, _ | _⟩ <;> simp_all [LogExchange.taggedMissing, LogRequest.isTagged]
    rw [shape.triedTagged] at tried
    exact ⟨returned, same ▸ tried⟩

end BuildWorker
