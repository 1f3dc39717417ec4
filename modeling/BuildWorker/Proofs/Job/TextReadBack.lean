import Mathlib
import BuildWorker.Job.Json
import BuildWorker.Proofs.Json.Records
/-!
# Jobs read back from their text

A job is written as a JSON object whose entries are its fields in declaration order,
absent options and empty upload lists left out.  Reading that text gives the job back,
whatever its strings hold, whichever options are present, and whatever shape each
phase's commands have (`Job.readText_toText`); so writing a job that was read and
reading it again reads the same job.

The proof reads the object entry by entry with `reads_readRecord`.  Each field written
is a `FieldWrite`: its key, its value, and what reading the value does to the draft of
the record.  For instructions and for jobs, `Instructions.writes` and `Job.writes` list
the fields a value is written with; three facts about such a list give the record back:
its entries are the ones the writer puts out (`Instructions.toValue_eq`,
`Job.toValue_eq`), each is read by the rule of its key, and the drafts they build end at
the value written (`Instructions.foldl_writes`, `Job.finish_foldl_writes`).  A field left
out keeps its default, and the default is what the writer leaves out.
-/

set_option autoImplicit false

namespace BuildWorker

open Json Text

/-! ## Phase commands -/

theorem PhaseCommands.ofAny_toValue (c : PhaseCommands) : PhaseCommands.ofAny c.toValue = some c := by
  cases c with
  | single s => rfl
  | many cs =>
      -- every item is a string, so the shape check hands the strings back
      simpa [PhaseCommands.toValue, PhaseCommands.ofAny, List.mapM_map, Function.comp_def] using
        List.mapM_pure (m := Option) (f := id) (l := cs)

/-- Phase commands read as a value of any shape, then checked. -/
theorem reads_readPhaseCommands (c : PhaseCommands) :
    Reads readPhaseCommands (encode c.toValue.render) c (fun _ => True) 1 := by
  have hany : Reads readAny (encode c.toValue.render) c.toValue (fun _ => True) 1 := by
    cases c with
    | single s => exact (reads_readAny_string s).mono (fun _ h => h) (Nat.zero_le 1)
    | many cs => exact reads_readAny_strings cs
  refine (hany.bind ?_ (fun _ _ => trivial)).of_eq (List.append_nil _)
  rw [PhaseCommands.ofAny_toValue]
  exact Reads.pure c

/-- The text of phase commands opens with a quote or a bracket, so it is not `null`. -/
theorem encode_phaseCommands_cons (c : PhaseCommands) :
    ∃ b w, encode c.toValue.render = b :: w ∧ isSpaceByte b = false ∧ b ≠ 110 := by
  cases c with
  | single s => exact ⟨34, _, encode_renderString s, rfl, by decide⟩
  | many cs => exact ⟨91, _, encode_render_strings cs, rfl, by decide⟩

/-- A value whose text opens with neither a blank nor `n` is read as present. -/
theorem reads_readOptional_of_cons {α : Type} {inner : Reader α} {w : List UInt8} {v : α}
    {after : List UInt8 → Prop} {d : Nat} (h : Reads inner w v after d)
    (hw : ∃ b rest, w = b :: rest ∧ isSpaceByte b = false ∧ b ≠ 110) :
    Reads (readOptional inner) w (some v) after d := by
  obtain ⟨b, rest, rfl, hsp, hnull⟩ := hw
  exact reads_readOptional h hsp hnull

/-- A list of strings is read by the list reader, item by item. -/
theorem reads_readList_strings (ss : List String) :
    Reads (readList readString) (encode (Value.array (ss.map Value.string)).render) ss
      (fun _ => True) 1 := by
  have h := reads_readList (d := 0) (ss.map fun s => (encode (renderString s), s)) (by
    intro p hp
    obtain ⟨s, -, rfl⟩ := List.mem_map.1 hp
    exact ⟨reads_readString s, 34, _, encode_renderString s, rfl, by decide⟩)
  rw [encode_render_strings]
  simpa [List.map_map, Function.comp_def] using h

/-! ## Instructions -/

namespace Instructions

theorem get_set (i : Instructions) (p q : Phase) (c : Option PhaseCommands) :
    (i.set p c).get q = if q = p then c else i.get q := by
  cases p <;> cases q <;> rfl

@[simp] theorem uploadLabels_set (i : Instructions) (p : Phase) (c : Option PhaseCommands) :
    (i.set p c).uploadLabels = i.uploadLabels := by
  cases p <;> rfl

@[simp] theorem buildTargets_set (i : Instructions) (p : Phase) (c : Option PhaseCommands) :
    (i.set p c).buildTargets = i.buildTargets := by
  cases p <;> rfl

/-- Instructions are their phases' commands and their two lists. -/
theorem ext_get {a b : Instructions} (h : ∀ p, a.get p = b.get p)
    (hl : a.uploadLabels = b.uploadLabels) (ht : a.buildTargets = b.buildTargets) : a = b := by
  obtain ⟨⟩ := a
  obtain ⟨⟩ := b
  simp only [mk.injEq]
  exact ⟨h .install, h .test, h .beforeScript, h .script, h .afterSuccess, h .afterFailure,
    h .afterError, h .afterScript, hl, ht⟩

/-- A present phase, written under its name. -/
def phaseWrite (p : Phase) (c : PhaseCommands) : FieldWrite Instructions :=
  ⟨p.name, c.toValue, fun d => d.set p (some c)⟩

/-- The fields instructions are written with: the present phases in order, then the
upload lists that are not empty. -/
def writes (i : Instructions) : List (FieldWrite Instructions) :=
  Phase.all.filterMap (fun p => (i.get p).map (phaseWrite p)) ++
  (if i.uploadLabels.isEmpty then [] else
    [⟨"upload_labels", .array (i.uploadLabels.map Value.string),
      fun d => { d with uploadLabels := i.uploadLabels }⟩]) ++
  (if i.buildTargets.isEmpty then [] else
    [⟨"build_targets", .array (i.buildTargets.map Value.string),
      fun d => { d with buildTargets := i.buildTargets }⟩])

theorem toValue_eq (i : Instructions) : i.toValue = .object (i.writes.map FieldWrite.entry) := by
  simp only [toValue, writes, List.map_append, List.map_filterMap, Option.map_map]
  congr 2
  · split <;> rfl
  · split <;> rfl

/-- A phase is read by the rule of its name. -/
theorem find_phase (p : Phase) :
    ∃ f, instructionFields.find? (·.name == p.name) = some f ∧
      f.read = (fun i => do pure (i.set p (← readOptional readPhaseCommands))) := by
  cases p <;> exact ⟨_, rfl, rfl⟩

theorem writes_readBy (i : Instructions) : ∀ w ∈ i.writes, w.ReadBy instructionFields 1 := by
  intro w hw
  simp only [writes, List.mem_append, List.mem_filterMap, Option.map_eq_some_iff] at hw
  rcases hw with (⟨p, -, c, -, rfl⟩ | hl) | hl
  · obtain ⟨f, hfind, hread⟩ := find_phase p
    refine ⟨f, hfind, fun draft => ?_⟩
    rw [hread]
    exact ((reads_readOptional_of_cons (reads_readPhaseCommands c)
      (encode_phaseCommands_cons c)).bind_pure _).mono (fun _ _ => trivial) le_rfl
  -- the two upload lists, written only when not empty and read by the list reader
  all_goals
    split at hl
    · cases hl
    · obtain rfl := List.mem_singleton.1 hl
      exact ⟨_, rfl, fun _ =>
        ((reads_readList_strings _).bind_pure _).mono (fun _ _ => trivial) le_rfl⟩

/-- Keeping some items of a list, each under its name, keeps a sublist of the names. -/
theorem filterMap_sublist_map {α β : Type} {f : α → Option β} (g : α → β) (l : List α)
    (h : ∀ a b, f a = some b → b = g a) : List.Sublist (l.filterMap f) (l.map g) := by
  induction l with
  | nil => exact List.Sublist.slnil
  | cons a l ih =>
      rw [List.filterMap_cons, List.map_cons]
      cases hfa : f a with
      | none => exact ih.cons _
      | some b => exact h a b hfa ▸ ih.cons_cons _

/-- The keys written are some of the field names, in their order. -/
theorem writes_keys_nodup (i : Instructions) : (i.writes.map FieldWrite.key).Nodup := by
  have hsub : List.Sublist (i.writes.map FieldWrite.key)
      (Phase.all.map Phase.name ++ ["upload_labels"] ++ ["build_targets"]) := by
    simp only [writes, List.map_append, List.map_filterMap]
    refine ((filterMap_sublist_map Phase.name Phase.all ?_).append ?_).append ?_
    · intro p k hk
      obtain ⟨w, hw, rfl⟩ := Option.map_eq_some_iff.1 hk
      obtain ⟨c, -, rfl⟩ := Option.map_eq_some_iff.1 hw
      rfl
    · split <;> simp
    · split <;> simp
  exact hsub.nodup (by decide)

/-- What reading the present phases does: each is set, and the rest is kept. -/
theorem foldl_phaseWrites (i d : Instructions) (ps : List Phase) :
    ∃ d', (ps.filterMap fun p => (i.get p).map (phaseWrite p)).foldl (fun d w => w.update d) d = d' ∧
      (∀ q, d'.get q = if q ∈ ps then (i.get q).or (d.get q) else d.get q) ∧
      d'.uploadLabels = d.uploadLabels ∧ d'.buildTargets = d.buildTargets := by
  induction ps generalizing d with
  | nil => exact ⟨d, rfl, by simp, rfl, rfl⟩
  | cons p ps ih =>
      rw [List.filterMap_cons]
      cases hp : i.get p with
      | none =>
          obtain ⟨d', hfold, hget, hl, ht⟩ := ih d
          refine ⟨d', hfold, fun q => ?_, hl, ht⟩
          by_cases hq : q = p
          · subst hq
            simp [hget, hp]
          · simp [hget, hq]
      | some c =>
          obtain ⟨d', hfold, hget, hl, ht⟩ := ih (d.set p (some c))
          refine ⟨d', hfold, fun q => ?_, by simp [hl], by simp [ht]⟩
          by_cases hq : q = p
          · subst hq
            simp [hget, hp, get_set]
          · simp [hget, hq, get_set]

@[simp] theorem get_withUploadLabels (i : Instructions) (l : List String) (q : Phase) :
    ({ i with uploadLabels := l } : Instructions).get q = i.get q := by
  cases q <;> rfl

@[simp] theorem get_withBuildTargets (i : Instructions) (l : List String) (q : Phase) :
    ({ i with buildTargets := l } : Instructions).get q = i.get q := by
  cases q <;> rfl

/-- **The fields written build the instructions back**, from the empty draft. -/
theorem foldl_writes (i : Instructions) : i.writes.foldl (fun d w => w.update d) {} = i := by
  obtain ⟨d, hfold, hget, hl, ht⟩ := foldl_phaseWrites i {} Phase.all
  have hphases : ∀ q, d.get q = i.get q := by
    intro q
    have hall : q ∈ Phase.all := by cases q <;> decide
    have hnone : ({} : Instructions).get q = none := by cases q <;> rfl
    simp [hget, hall, hnone]
  -- an empty list is left out and keeps its default, the empty list
  have hlabels : i.uploadLabels.isEmpty = true → d.uploadLabels = i.uploadLabels := by
    intro h
    rw [hl, List.isEmpty_iff.1 h]
  have htargets : i.buildTargets.isEmpty = true → d.buildTargets = i.buildTargets := by
    intro h
    rw [ht, List.isEmpty_iff.1 h]
  simp only [writes, List.foldl_append, hfold]
  clear hfold hget hl ht
  split <;> split <;> apply ext_get <;>
    simp only [List.foldl_cons, List.foldl_nil, get_withUploadLabels, get_withBuildTargets, hphases,
      implies_true] <;>
    first | exact hlabels ‹_› | exact htargets ‹_› | (intro q; have hq := hphases q; cases q <;> exact hq)

/-- **Written instructions read back as themselves.** -/
theorem reads_readInstructions (i : Instructions) :
    Reads readInstructions (encode i.toValue.render) i (fun _ => True) 2 := by
  have hoptional : ∀ f ∈ instructionFields, f.required = false := by
    simp [instructionFields, Phase.all]
  have h := reads_readRecord "Instructions" {} i.writes (writes_readBy i) (writes_keys_nodup i)
    (fun f hf hreq => absurd hreq (by simp [hoptional f hf]))
  rw [foldl_writes, ← toValue_eq] at h
  exact h

end Instructions

/-! ## Jobs -/

/-- A value inside an object ends where no number can go on. -/
theorem numberEnds_of_entryEnds {r : List UInt8} (h : EntryEnds r) : NumberEnds r := by
  intro b hb
  rcases h with h | h <;> rw [h, Option.mem_some_iff] at hb <;> subst hb <;> decide

theorem reads_readU32 (n : UInt32) :
    Reads readU32 (encode (Value.number (.unsigned n.toNat)).render) n NumberEnds 0 := by
  have hn : n.toNat ≤ Nat.pow 2 32 - 1 := by
    have := n.toNat_lt
    simp only [Nat.pow_eq] at this ⊢
    omega
  have h := (@reads_readUnsigned _ n.toNat "u32" hn (by decide)).bind_pure Nat.toUInt32
  have hn' : n.toNat.toUInt32 = n := UInt32.ofNat_toNat
  rw [hn'] at h
  exact h

theorem reads_readU64 (n : UInt64) :
    Reads readU64 (encode (Value.number (.unsigned n.toNat)).render) n NumberEnds 0 := by
  have hn : n.toNat ≤ Nat.pow 2 64 - 1 := by
    have := n.toNat_lt
    simp only [Nat.pow_eq] at this ⊢
    omega
  have h := (@reads_readUnsigned _ n.toNat "u64" hn le_rfl).bind_pure Nat.toUInt64
  have hn' : n.toNat.toUInt64 = n := UInt64.ofNat_toNat
  rw [hn'] at h
  exact h

namespace Job

/-- A string field of a job, written under its key. -/
def stringWrite (key : String) (f : Job → String → Job) (s : String) : FieldWrite JobDraft :=
  ⟨key, .string s, fun d => d.modify (f · s)⟩

/-- A present optional string of a job, written under its key. -/
def optionWrite (key : String) (f : Job → Option String → Job) (s : String) : FieldWrite JobDraft :=
  ⟨key, .string s, fun d => d.modify (f · (some s))⟩

/-- A build number of a job, written under its key. -/
def numberWrite (key : String) (f : Job → UInt32 → Job) (n : UInt32) : FieldWrite JobDraft :=
  ⟨key, .number (.unsigned n.toNat), fun d => d.modify (f · n)⟩

/-- A present time-out without output, written under its key. -/
def ioTimeoutWrite (t : UInt64) : FieldWrite JobDraft :=
  ⟨"iotimeout", .number (.unsigned t.toNat), fun d => d.modify ({ · with ioTimeout := some t })⟩

/-- The fields a job is written with, in declaration order, absent options left out. -/
def writes (j : Job) : List (FieldWrite JobDraft) :=
  [⟨"job_id", .string j.id, fun d => { d with id := some j.id }⟩,
   ⟨"job_name", .string j.name, fun d => { d with name := some j.name }⟩,
   numberWrite "build_no" ({ · with buildNo := · }) j.buildNo,
   numberWrite "sub_build_no" ({ · with subBuildNo := · }) j.subBuildNo,
   stringWrite "platform" ({ · with platform := · }) j.platform,
   stringWrite "engine" ({ · with engine := · }) j.engine,
   stringWrite "owner" ({ · with owner := · }) j.owner,
   stringWrite "package" ({ · with package := · }) j.package,
   stringWrite "env" ({ · with env := · }) j.env,
   ⟨"instructions", j.instructions.toValue,
     fun d => d.modify ({ · with instructions := j.instructions })⟩] ++
  j.ioTimeout.toList.map ioTimeoutWrite ++
  [stringWrite "upload_token" ({ · with uploadToken := · }) j.uploadToken] ++
  j.gitToken.toList.map (optionWrite "git_oauth_token" ({ · with gitToken := · })) ++
  j.gitUrl.toList.map (optionWrite "git_url" ({ · with gitUrl := · })) ++
  j.gitBranch.toList.map (optionWrite "git_branch" ({ · with gitBranch := · })) ++
  j.image.toList.map (optionWrite "image" ({ · with image := · }))

theorem map_entry_optionWrites (key : String) (f : Job → Option String → Job) (o : Option String) :
    (o.toList.map (optionWrite key f)).map FieldWrite.entry = optionalString key o := by
  cases o <;> rfl

theorem toValue_eq (j : Job) : j.toValue = .object (j.writes.map FieldWrite.entry) := by
  simp only [toValue, writes, List.map_append, map_entry_optionWrites]
  cases j.ioTimeout <;> rfl

theorem stringWrite_readBy {key : String} {f : Job → String → Job} (s : String)
    (h : jobFields.find? (·.name == key) = some (stringField key f)) :
    (stringWrite key f s).ReadBy jobFields 2 :=
  ⟨_, h, fun _ => ((reads_readString s).bind_pure _).mono (fun _ _ => trivial) (Nat.zero_le 2)⟩

theorem optionWrite_readBy {key : String} {f : Job → Option String → Job} (s : String)
    (h : jobFields.find? (·.name == key) = some (optionField key f)) :
    (optionWrite key f s).ReadBy jobFields 2 :=
  ⟨_, h, fun _ => ((reads_readOptional_of_cons (reads_readString s)
    ⟨34, _, encode_renderString s, rfl, by decide⟩).bind_pure _).mono (fun _ _ => trivial)
      (Nat.zero_le 2)⟩

theorem numberWrite_readBy {key : String} {f : Job → UInt32 → Job} (n : UInt32)
    (h : jobFields.find? (·.name == key) =
      some ⟨key, false, fun d => do let m ← readU32; pure (d.modify (f · m))⟩) :
    (numberWrite key f n).ReadBy jobFields 2 :=
  ⟨_, h, fun _ => ((reads_readU32 n).bind_pure _).mono (fun _ h => numberEnds_of_entryEnds h)
    (Nat.zero_le 2)⟩

/-- Every field written is read by the rule of its key. -/
theorem writes_readBy (j : Job) : ∀ w ∈ j.writes, w.ReadBy jobFields 2 := by
  intro w hw
  simp only [writes, List.mem_append, List.mem_cons, List.mem_map, Option.mem_toList,
    List.not_mem_nil, or_false] at hw
  rcases hw with ((((((rfl | rfl | rfl | rfl | rfl | rfl | rfl | rfl | rfl | rfl) | ⟨t, -, rfl⟩) |
    rfl) | ⟨s, -, rfl⟩) | ⟨s, -, rfl⟩) | ⟨s, -, rfl⟩) | ⟨s, -, rfl⟩
  · exact ⟨_, rfl, fun _ =>
      ((reads_readString j.id).bind_pure _).mono (fun _ _ => trivial) (Nat.zero_le 2)⟩
  · exact ⟨_, rfl, fun _ =>
      ((reads_readString j.name).bind_pure _).mono (fun _ _ => trivial) (Nat.zero_le 2)⟩
  · exact numberWrite_readBy _ rfl
  · exact numberWrite_readBy _ rfl
  · exact stringWrite_readBy _ rfl
  · exact stringWrite_readBy _ rfl
  · exact stringWrite_readBy _ rfl
  · exact stringWrite_readBy _ rfl
  · exact stringWrite_readBy _ rfl
  · exact ⟨_, rfl, fun _ =>
      ((Instructions.reads_readInstructions j.instructions).bind_pure _).mono (fun _ _ => trivial) le_rfl⟩
  · -- a number opens with a digit, so the time-out is read as present
    obtain ⟨b, ds, hds, hdigit⟩ := exists_encode_toString t.toNat
    exact ⟨_, rfl, fun _ => ((reads_readOptional_of_cons (reads_readU64 t)
      ⟨b, ds, hds, isSpaceByte_of_isDigit hdigit, fun e => by subst e; cases hdigit⟩).bind_pure _).mono
        (fun _ h => numberEnds_of_entryEnds h) (Nat.zero_le 2)⟩
  · exact stringWrite_readBy _ rfl
  · exact optionWrite_readBy _ rfl
  · exact optionWrite_readBy _ rfl
  · exact optionWrite_readBy _ rfl
  · exact optionWrite_readBy _ rfl

theorem keys_toList_sublist {α : Type} (o : Option α) (w : α → FieldWrite JobDraft) (key : String)
    (hkey : ∀ a, (w a).key = key) : List.Sublist ((o.toList.map w).map FieldWrite.key) [key] := by
  cases o <;> simp [hkey]

/-- The keys written are some of the job's field names, in their order. -/
theorem writes_keys_nodup (j : Job) : (j.writes.map FieldWrite.key).Nodup := by
  have hsub : List.Sublist (j.writes.map FieldWrite.key)
      (["job_id", "job_name", "build_no", "sub_build_no", "platform", "engine", "owner", "package",
        "env", "instructions"] ++ ["iotimeout"] ++ ["upload_token"] ++ ["git_oauth_token"] ++
        ["git_url"] ++ ["git_branch"] ++ ["image"]) := by
    simp only [writes, List.map_append]
    exact ((((((List.Sublist.refl _).append
      (keys_toList_sublist j.ioTimeout ioTimeoutWrite _ fun _ => rfl)).append
      (List.Sublist.refl _)).append
      (keys_toList_sublist j.gitToken (optionWrite "git_oauth_token" _) _ fun _ => rfl)).append
      (keys_toList_sublist j.gitUrl (optionWrite "git_url" _) _ fun _ => rfl)).append
      (keys_toList_sublist j.gitBranch (optionWrite "git_branch" _) _ fun _ => rfl)).append
      (keys_toList_sublist j.image (optionWrite "image" _) _ fun _ => rfl)
  exact hsub.nodup (by decide)

/-- The two fields without defaults are always written. -/
theorem required_mem_keys (j : Job) :
    ∀ f ∈ jobFields, f.required = true → f.name ∈ j.writes.map FieldWrite.key := by
  have hreq : ∀ f ∈ jobFields, f.required = true → f.name = "job_id" ∨ f.name = "job_name" := by
    simp [jobFields, stringField, optionField]
  intro f hf hr
  rcases hreq f hf hr with h | h <;> simp [h, writes]

/-- An optional field read back: written when present, and when absent the draft keeps
its own value, which is already absent. -/
theorem foldl_optionalWrites {α : Type} (o : Option α) (g : Job → Option α → Job)
    (w : α → FieldWrite JobDraft) (hw : ∀ a d, (w a).update d = d.modify (g · (some a)))
    (d : JobDraft) (hd : g d.rest none = d.rest) :
    (o.toList.map w).foldl (fun (d : JobDraft) w => w.update d) d = d.modify (g · o) := by
  cases o with
  | none => simp [JobDraft.modify, hd]
  | some a => simp [hw]

/-- **The fields written build the job back**: each option is written exactly when it
is present, and one left out keeps its default, which is absent. -/
theorem finish_foldl_writes (j : Job) :
    (j.writes.foldl (fun (d : JobDraft) w => w.update d) {}).finish = j := by
  simp only [writes, List.foldl_append, List.foldl_cons, List.foldl_nil]
  -- from the innermost option out, so that the draft each one meets is known
  rw [foldl_optionalWrites j.ioTimeout ({ · with ioTimeout := · }) ioTimeoutWrite (fun _ _ => rfl) _ rfl,
    foldl_optionalWrites j.gitToken ({ · with gitToken := · }) (optionWrite "git_oauth_token" _)
      (fun _ _ => rfl) _ rfl,
    foldl_optionalWrites j.gitUrl ({ · with gitUrl := · }) (optionWrite "git_url" _)
      (fun _ _ => rfl) _ rfl,
    foldl_optionalWrites j.gitBranch ({ · with gitBranch := · }) (optionWrite "git_branch" _)
      (fun _ _ => rfl) _ rfl,
    foldl_optionalWrites j.image ({ · with image := · }) (optionWrite "image" _) (fun _ _ => rfl) _ rfl]
  rfl

/-- **A written job reads back as itself.** -/
theorem reads_readJob (j : Job) : Reads readJob (encode j.toText) j (fun _ => True) 3 := by
  have h := reads_readRecord "Job" {} j.writes (writes_readBy j) (writes_keys_nodup j)
    (required_mem_keys j)
  rw [← toValue_eq] at h
  have hjob := h.map JobDraft.finish
  rw [finish_foldl_writes] at hjob
  exact hjob

/-- **Job text round trip.**  Reading the text of any job gives the job back, whichever
options it has and whatever shape its phases' commands take; so reading, writing and
reading again reads what reading once does. -/
theorem readText_toText :
    (∀ j : Job, Job.readText j.toText = .ok j) ∧
      ∀ text, (Job.readText text >>= fun j => Job.readText j.toText) = Job.readText text := by
  have hround : ∀ j : Job, Job.readText j.toText = .ok j :=
    fun j => (reads_readJob j).runText (by decide)
  refine ⟨hround, fun text => ?_⟩
  cases h : Job.readText text with
  | error e => rfl
  | ok j =>
      simp only [bind, Except.bind]
      exact hround j

end Job

end BuildWorker
