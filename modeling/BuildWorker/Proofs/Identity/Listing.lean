import Mathlib
import BuildWorker.Proofs.Identity.StoreSteps
/-!
# Listing and loading identities

The store finds identities in two ways.  `load w` reads the file `<w>.yaml` and falls
back to the legacy file named `w`.  `list` reads every file whose extension is `yaml`
and keeps the identities it finds, adds the legacy files whose names have no extension
and do not start with a dot for workers not yet seen, and sorts by worker id.  Loading
is keyed by file name and listing by file content, so the two agree only where names and
contents line up.

* `IdentityStore.list_run`: listing only reads, and its result is `listing` of the
  directory.
* `IdentityStore.load_yaml`, `load_legacy` and `load_ok`: what loading returns.
* `Folder.IdentitiesNamed`: the directory as the store writes it.  No two entries share a
  name and none has the empty name, every name with the extension `yaml` is a file of
  text when present, and such a file that holds an identity is named after it.
* `Folder.Findable w`: `w` is a name the legacy format uses (not empty, no extension, no
  leading dot), or it is not empty and its YAML file holds an identity.
* `IdentityStore.listedIdentities`: what the listing holds before it sorts.  In such a
  directory each of them is what loading its worker gives (`load_listed`) and is findable
  (`findable_listed`), and what loading a findable worker gives is among them
  (`listed_of_load`).
* `IdentityStore.list_agrees_with_load`: in such a directory, listing succeeds, lists at
  most one identity per worker, every listed identity is what loading its id gives, and
  for every findable id, loading succeeds exactly when the listing holds an identity of
  that worker, the same one.
* `foreign_identity_file_listed_not_loaded`: a YAML file that holds another worker's
  identity is listed under that worker, whom loading does not find.
-/

set_option autoImplicit false

namespace BuildWorker

/-! ## Loops that only read -/

/-- A loop whose body leaves the state alone, and yields or fails with what a function
of the element gives, is that function folded over the elements. -/
theorem runStoreStep_forIn_of_reads {α β : Type} (l : List α) (init : β)
    (body : α → β → StoreM (ForInStep β)) (g : β → α → Except WorkerError β)
    (reads : ∀ a b s, runStoreStep (body a b) s = ((g b a).map ForInStep.yield, s))
    (s : StoreState) :
    runStoreStep (forIn l init body) s = (l.foldlM g init, s) := by
  induction l generalizing init with
  | nil => rfl
  | cons a l ih =>
      rw [List.forIn_cons, runStoreStep_bind, reads]
      rcases hg : g init a with e | b
      · simp [hg]
        rfl
      · simp only [hg, Except.map, List.foldlM_cons]
        exact ih b

/-- Keys of the values a partial map picks from a list without repeats do not repeat,
when two members that give values of one key are the same member. -/
theorem nodup_map_filterMap {α β γ : Type} {g : α → Option β} {key : β → γ} {l : List α}
    (hl : l.Nodup)
    (inj : ∀ a ∈ l, ∀ a' ∈ l, ∀ b b', g a = some b → g a' = some b' → key b = key b' → a = a') :
    ((l.filterMap g).map key).Nodup := by
  induction l with
  | nil => simp
  | cons a l ih =>
      rw [List.nodup_cons] at hl
      have rest := ih hl.2 fun x hx y hy => inj x (.tail _ hx) y (.tail _ hy)
      rw [List.filterMap_cons]
      cases ha : g a with
      | none => exact rest
      | some b =>
          rw [List.map_cons, List.nodup_cons]
          refine ⟨fun hb => ?_, rest⟩
          obtain ⟨b', hb', hkey⟩ := List.mem_map.1 hb
          obtain ⟨a', ha', hg⟩ := List.mem_filterMap.1 hb'
          have same := inj a (.head _) a' (.tail _ ha') b b' ha hg hkey.symm
          exact hl.1 (same ▸ ha')

/-! ## Directory entries -/

namespace Folder

variable {f : Folder} {n : String} {e : Entry}

theorem mem_names : n ∈ f.names ↔ ∃ e, (n, e) ∈ f.entries := by
  simp [names, List.mem_mergeSort]

theorem names_nodup (distinct : (f.entries.map Prod.fst).Nodup) : f.names.Nodup :=
  (List.mergeSort_perm _ _).nodup_iff.2 distinct

/-- The entry a name finds is an entry of the directory. -/
theorem mem_entries_of_get? (h : f.get? n = some e) : (n, e) ∈ f.entries := by
  unfold get? at h
  rcases hp : f.entries.find? (fun x => x.1 == n) with _ | ⟨m, v⟩
  · simp [hp] at h
  · have named : m = n := by simpa using List.find?_some hp
    have held : v = e := by simpa [hp] using h
    rw [← named, ← held]
    exact List.mem_of_find?_eq_some hp

/-- In a directory whose names are distinct, a name finds its entry. -/
theorem get?_of_mem (distinct : (f.entries.map Prod.fst).Nodup) (h : (n, e) ∈ f.entries) :
    f.get? n = some e := by
  unfold get?
  rcases hp : f.entries.find? (fun x => x.1 == n) with _ | ⟨m, v⟩
  · have := List.find?_eq_none.1 hp (n, e) h
    simp at this
  · have named : m = n := by simpa using List.find?_some hp
    have same : (m, v) = (n, e) :=
      List.inj_on_of_nodup_map distinct (List.mem_of_find?_eq_some hp) h named
    rw [hp, same]
    rfl

/-- A name that reads as text names a file of the directory. -/
theorem mem_entries_of_readText {text : String} (h : f.readText n = .ok text) :
    ∃ node bytes, (n, Entry.file node bytes) ∈ f.entries := by
  unfold readText readBytes at h
  split at h
  next node bytes hget => exact ⟨node, bytes, mem_entries_of_get? hget⟩
  all_goals simp [bind, Except.bind] at h

end Folder

/-! ## Names -/

namespace IdentityStore

/-- An identity file's name has the extension `yaml`, unless the worker id is empty. -/
theorem extensionOf?_fileName {w : String} (hw : w ≠ "") : extensionOf? (fileName w) = some "yaml" := by
  obtain ⟨c, cs, hcs⟩ := List.exists_cons_of_ne_nil (mt String.toList_eq_nil_iff.1 hw)
  have name : (fileName w).toList = c :: (cs ++ ['.', 'y', 'a', 'm', 'l']) := by
    rw [fileName, String.toList_append, hcs]
    rfl
  have dotted : hasExtension (fileName w) = true := by
    have long : fileName w ≠ ".." := by
      intro h
      have := congrArg (·.toList.length) h
      simp only [name, List.length_cons, List.length_append] at this
      simp at this
    simp [hasExtension, long, name]
  simp only [extensionOf?, dotted, Bool.not_true, Bool.false_eq_true, if_false, name,
    List.reverse_cons, List.reverse_append, Option.some.injEq]
  simp

end IdentityStore

/-! ## The legacy format -/

namespace Legacy

variable {f : Folder} {w c : String} {i : Identity}

/-- A legacy identity takes its worker id from the file's name. -/
theorem parse_workerId (h : parse w c = some i) : i.workerId = w := by
  unfold parse at h
  simp only [Option.bind_eq_bind, Option.bind_eq_some_iff, Option.pure_def] at h
  obtain ⟨q, -, h⟩ := h
  -- however the queue field splits, the identity is built under the file's name
  split at h <;> simp only [Option.bind_eq_some_iff, Option.ite_none_left_eq_some] at h
  · obtain ⟨_, -, -, built⟩ := h
    rw [← Option.some.inj built]
  · obtain ⟨_, -, _, -, -, built⟩ := h
    rw [← Option.some.inj built]

theorem load_workerId (h : load f w = some i) : i.workerId = w := by
  unfold load at h
  split at h
  · exact parse_workerId h
  · simp at h

/-- A legacy file that holds an identity is a file of the directory. -/
theorem mem_entries_of_load (h : load f w = some i) :
    ∃ node bytes, (w, Entry.file node bytes) ∈ f.entries := by
  unfold load at h
  split at h
  next text hread => exact Folder.mem_entries_of_readText hread
  · simp at h

theorem mem_scan : i ∈ scan f ↔ ∃ p ∈ f.entries, isCandidate p.1 p.2 = true ∧ load f p.1 = some i := by
  unfold scan
  rw [List.mem_filterMap]
  refine exists_congr fun entry => and_congr_right fun _ => ?_
  by_cases hc : isCandidate entry.1 entry.2 = true <;> simp [hc]

/-- Legacy identities of a directory whose names are distinct belong to distinct
workers. -/
theorem scan_workerIds_nodup (distinct : (f.entries.map Prod.fst).Nodup) :
    ((scan f).map Identity.workerId).Nodup := by
  refine nodup_map_filterMap (List.Nodup.of_map _ distinct) fun p hp p' hp' j j' hj hj' same => ?_
  -- each identity carries the name of its file, and names are distinct
  have key : ∀ q : String × Entry, ∀ k, (if isCandidate q.1 q.2 then load f q.1 else none) = some k →
      k.workerId = q.1 := by
    intro q k hk
    split at hk
    · exact load_workerId hk
    · simp at hk
  exact List.inj_on_of_nodup_map distinct hp hp' ((key p j hj).symm.trans (same.trans (key p' j' hj')))

end Legacy

/-! ## Listing -/

namespace IdentityStore

variable (store : IdentityStore)

/-- What the listing makes of one name of the directory: a file with the extension
`yaml` that holds an identity adds it, one that holds none is passed over, and one that
cannot be read fails the listing. -/
def listYaml (f : Folder) (found : List Identity) (name : String) :
    Except WorkerError (List Identity) :=
  if extensionOf? name == some "yaml" then
    match f.readText name with
    | .ok text => .ok (match Identity.ofYamlText text with
        | some i => found ++ [i]
        | none => found)
    | .error e => .error (store.failAt name e)
  else .ok found

/-- A legacy identity joins those found when none of its worker is there yet. -/
def addLegacy (found : List Identity) (i : Identity) : List Identity :=
  if !found.any (·.workerId == i.workerId) then found ++ [i] else found

/-- The listing as a function of the directory. -/
def listing : WorkersDir → Except WorkerError (List Identity)
  | .missing => .ok []
  | .blocked => .error (.path store.dirPath .notDirectory)
  | .present f => (f.names.foldlM (store.listYaml f) []).map fun found =>
      ((Legacy.scan f).foldl addLegacy found).mergeSort fun a b => decide (a.workerId ≤ b.workerId)

/-- **Listing only reads**, and gives `listing` of the directory. -/
theorem list_run (s : StoreState) : runStoreStep store.list s = (store.listing s.dir, s) := by
  unfold list folder?
  rcases hd : s.dir with _ | _ | f
  · simp [hd, listing]
  · simp [hd, listing]
  · simp only [runStoreStep_bind, runStoreStep_get, hd, runStoreStep_pure]
    rw [runStoreStep_forIn_of_reads _ _ _ (store.listYaml f)]
    · rcases hy : f.names.foldlM (store.listYaml f) [] with e | found
      · simp [listing, hy, Except.map]
      · simp only
        rw [runStoreStep_forIn_of_reads _ _ _ fun found i => pure (addLegacy found i)]
        · simp [listing, hy, List.foldlM_pure, Except.map]
          rfl
        · intro i found s'
          unfold addLegacy
          split <;> rfl
    · -- one name: the body's branches are those of `listYaml`
      intro name found s'
      unfold listYaml
      by_cases hy : (extensionOf? name == some "yaml") = true
      · rw [if_pos hy, if_pos hy]
        rcases f.readText name with e | text
        · rfl
        · dsimp only
          rcases Identity.ofYamlText text with _ | i <;> rfl
      · rw [if_neg hy, if_neg hy]
        rfl

/-- The identity a file holds, when its name has the extension `yaml`. -/
def yamlIdentity (f : Folder) (name : String) : Option Identity :=
  if extensionOf? name == some "yaml" then
    match f.readText name with
    | .ok text => Identity.ofYamlText text
    | .error _ => none
  else none

/-- When every `yaml` name reads as text, the YAML files add the identities they hold,
in name order. -/
theorem foldlM_listYaml {f : Folder} {names : List String} (found : List Identity)
    (readable : ∀ n ∈ names, extensionOf? n = some "yaml" → ∃ text, f.readText n = .ok text) :
    names.foldlM (store.listYaml f) found = .ok (found ++ names.filterMap (yamlIdentity f)) := by
  induction names generalizing found with
  | nil =>
      simp only [List.foldlM_nil, List.filterMap_nil, List.append_nil]
      rfl
  | cons n names ih =>
      have step : store.listYaml f found n = .ok (found ++ (yamlIdentity f n).toList) := by
        unfold listYaml yamlIdentity
        by_cases hy : extensionOf? n = some "yaml"
        · obtain ⟨text, ht⟩ := readable n (by simp) hy
          simp only [hy, beq_self_eq_true, if_true, ht]
          cases Identity.ofYamlText text <;> simp
        · simp [hy]
      rw [List.foldlM_cons, step]
      show List.foldlM (store.listYaml f) (found ++ (yamlIdentity f n).toList) names = _
      rw [ih _ fun m hm => readable m (by simp [hm]), List.filterMap_cons]
      cases yamlIdentity f n <;> simp

/-- Legacy identities of distinct workers join those found when their worker is not
among them. -/
theorem foldl_addLegacy (found : List Identity) {legacy : List Identity}
    (distinct : (legacy.map Identity.workerId).Nodup) :
    legacy.foldl addLegacy found =
      found ++ legacy.filter fun i => !found.any (·.workerId == i.workerId) := by
  induction legacy generalizing found with
  | nil => simp
  | cons i legacy ih =>
      rw [List.map_cons, List.nodup_cons] at distinct
      rw [List.foldl_cons, List.filter_cons]
      by_cases seen : found.any (·.workerId == i.workerId) = true
      · have step : addLegacy found i = found := by simp [addLegacy, seen]
        rw [step, ih found distinct.2]
        simp [seen]
      · -- the later legacy identities belong to other workers than `i`
        have others : ∀ j ∈ legacy, (found ++ [i]).any (·.workerId == j.workerId) =
            found.any (·.workerId == j.workerId) := by
          intro j hj
          have : i.workerId ≠ j.workerId := fun h => distinct.1 (h ▸ List.mem_map_of_mem hj)
          simp [List.any_append, this]
        have step : addLegacy found i = found ++ [i] := by simp [addLegacy, seen]
        rw [step, ih _ distinct.2, List.filter_congr fun j hj => by rw [others j hj]]
        simp [seen]

/-- The identities the listing of a directory holds, before sorting: those of its YAML
files, then the legacy identities of workers not among them. -/
def listedIdentities (f : Folder) : List Identity :=
  f.names.filterMap (yamlIdentity f) ++ (Legacy.scan f).filter fun i =>
    !(f.names.filterMap (yamlIdentity f)).any (·.workerId == i.workerId)

theorem mem_listedIdentities {f : Folder} {i : Identity} :
    i ∈ listedIdentities f ↔ i ∈ f.names.filterMap (yamlIdentity f) ∨
      (i ∈ Legacy.scan f ∧ ∀ j ∈ f.names.filterMap (yamlIdentity f), j.workerId ≠ i.workerId) := by
  simp only [listedIdentities, List.mem_append, List.mem_filter, Bool.not_eq_true',
    List.any_eq_false, beq_iff_eq, ne_eq]

end IdentityStore

/-! ## Loading -/

namespace IdentityStore

variable (store : IdentityStore) {s : StoreState} {f : Folder} {w text : String} {i : Identity}

/-- Loading gives the identity a worker's YAML file holds. -/
theorem load_yaml (hd : s.dir = .present f) (hread : f.readText (fileName w) = .ok text)
    (hyaml : Identity.ofYamlText text = some i) : runStoreStep (store.load w) s = (.ok i, s) := by
  simp [load, hd, hread, hyaml]

/-- Loading falls back to the legacy file when the YAML file is missing or holds no
identity. -/
theorem load_legacy (hd : s.dir = .present f)
    (noYaml : f.readText (fileName w) = .error .notFound ∨
      ∃ text, f.readText (fileName w) = .ok text ∧ Identity.ofYamlText text = none)
    (hlegacy : Legacy.load f w = some i) : runStoreStep (store.load w) s = (.ok i, s) := by
  rcases noYaml with hread | ⟨text, hread, hyaml⟩
  · simp [load, hd, hread, hlegacy]
  · simp [load, hd, hread, hyaml, hlegacy]

/-- A YAML file that is missing or holds no identity holds no identity. -/
theorem no_identity_of_noYaml {n : String} {j : Identity}
    (noYaml : f.readText n = .error .notFound ∨
      ∃ text, f.readText n = .ok text ∧ Identity.ofYamlText text = none)
    (hread : f.readText n = .ok text) : Identity.ofYamlText text ≠ some j := by
  rcases noYaml with hnf | ⟨text', hread', hnone⟩
  · rw [hnf] at hread
    cases hread
  · rw [hread] at hread'
    cases hread'
    rw [hnone]
    exact (Option.some_ne_none j).symm

/-- **What loading returns**: the identity of the worker's YAML file, else that of its
legacy file; in either case it changes nothing. -/
theorem load_ok {s' : StoreState} (h : runStoreStep (store.load w) s = (.ok i, s')) :
    s' = s ∧ ∃ f, s.dir = .present f ∧
      ((∃ text, f.readText (fileName w) = .ok text ∧ Identity.ofYamlText text = some i) ∨
        ((f.readText (fileName w) = .error .notFound ∨
          ∃ text, f.readText (fileName w) = .ok text ∧ Identity.ofYamlText text = none) ∧
         Legacy.load f w = some i)) := by
  have same : s' = s := by simpa [h] using store.load_state s w
  refine ⟨same, ?_⟩
  subst same
  unfold load at h
  simp only [runStoreStep_bind, runStoreStep_get] at h
  split at h
  · simp at h
  · simp at h
  next f hd =>
    refine ⟨f, hd, ?_⟩
    rcases hread : f.readText (fileName w) with e | text
    · by_cases hnf : e = .notFound
      · subst hnf
        simp only [hread, runStoreStep_bind, runStoreStep_pure] at h
        refine .inr ⟨.inl rfl, ?_⟩
        split at h <;> simp_all
      · simp [hread] at h
    · simp only [hread, runStoreStep_bind, runStoreStep_pure] at h
      rcases hyaml : Identity.ofYamlText text with _ | j
      · simp only [hyaml] at h
        refine .inr ⟨.inr ⟨text, rfl, hyaml⟩, ?_⟩
        split at h <;> simp_all
      · simp only [hyaml, runStoreStep_pure, Prod.mk.injEq, Except.ok.injEq] at h
        exact .inl ⟨text, rfl, by rw [hyaml, h.1]⟩

end IdentityStore

/-! ## Directories the store keeps -/

/-- A workers directory as the store writes it: no two entries share a name and none has
the empty name, every name with the extension `yaml` is a file of text when present, and
an identity file (such a file, or `.yaml`, the file of the empty id) that holds an
identity is named after the identity's worker. -/
structure Folder.IdentitiesNamed (f : Folder) : Prop where
  distinct : (f.entries.map Prod.fst).Nodup
  nonempty : ∀ p ∈ f.entries, p.1 ≠ ""
  readable : ∀ n e, extensionOf? n = some "yaml" → f.readText n = .error e → e = .notFound
  named : ∀ n text i, (extensionOf? n = some "yaml" ∨ n = IdentityStore.fileName "") →
    f.readText n = .ok text → Identity.ofYamlText text = some i →
    n = IdentityStore.fileName i.workerId

/-- A worker id the listing looks for: a name the legacy format uses (not empty, without
extension, not starting with a dot), or a non-empty id whose YAML file holds an
identity. -/
def Folder.Findable (f : Folder) (w : String) : Prop :=
  (w ≠ "" ∧ (!hasExtension w && !w.startsWith ".") = true) ∨
    (w ≠ "" ∧ ∃ text i, f.readText (IdentityStore.fileName w) = .ok text ∧
      Identity.ofYamlText text = some i)

namespace Folder.IdentitiesNamed

variable {f : Folder} (kept : f.IdentitiesNamed)
include kept

/-- Every `yaml` name of the directory reads as text. -/
theorem readText_yaml {n : String} (hn : n ∈ f.names) (hy : extensionOf? n = some "yaml") :
    ∃ text, f.readText n = .ok text := by
  rcases hread : f.readText n with e | text
  · obtain ⟨entry, hmem⟩ := Folder.mem_names.1 hn
    have found := Folder.get?_of_mem kept.distinct hmem
    have := kept.readable n e hy hread
    subst this
    unfold Folder.readText Folder.readBytes at hread
    rw [found] at hread
    cases entry with
    | dir => simp [bind, Except.bind] at hread
    | file node bytes =>
        simp only [bind, Except.bind] at hread
        split at hread <;> simp at hread
  · exact ⟨text, rfl⟩

/-- An identity a `yaml` name holds is the one its worker's file holds. -/
theorem yamlIdentity_eq {n : String} {i : Identity} (h : IdentityStore.yamlIdentity f n = some i) :
    n = IdentityStore.fileName i.workerId ∧ ∃ text, f.readText n = .ok text ∧
      Identity.ofYamlText text = some i ∧ extensionOf? n = some "yaml" := by
  unfold IdentityStore.yamlIdentity at h
  by_cases hy : extensionOf? n = some "yaml"
  · simp only [hy, beq_self_eq_true, if_true] at h
    rcases hread : f.readText n with e | text
    · simp [hread] at h
    · simp only [hread] at h
      exact ⟨kept.named n text i (.inl hy) hread h, text, rfl, h, hy⟩
  · simp [hy] at h

/-- In a directory the store keeps, loading a worker gives that worker's identity. -/
theorem load_workerId (store : IdentityStore) {s s' : StoreState} (folder : s.folder = f)
    {w : String} {i : Identity} (h : runStoreStep (store.load w) s = (.ok i, s')) :
    i.workerId = w := by
  obtain ⟨-, f', hd, found⟩ := store.load_ok h
  obtain rfl : f' = f := by rw [← folder]; simp [StoreState.folder, hd]
  rcases found with ⟨text, hread, hparse⟩ | ⟨-, hload⟩
  · -- the YAML file is an identity file, named after the worker it holds
    have identityFile : extensionOf? (IdentityStore.fileName w) = some "yaml" ∨
        IdentityStore.fileName w = IdentityStore.fileName "" := by
      by_cases hw : w = ""
      · exact .inr (by rw [hw])
      · exact .inl (IdentityStore.extensionOf?_fileName hw)
    exact (IdentityStore.fileName_injective (kept.named _ text i identityFile hread hparse)).symm
  · exact Legacy.load_workerId hload

/-- A YAML identity of the directory is held by the file of its worker, whose id is not
empty. -/
theorem file_of_yamlIdentity {j : Identity}
    (hj : j ∈ f.names.filterMap (IdentityStore.yamlIdentity f)) :
    ∃ text, f.readText (IdentityStore.fileName j.workerId) = .ok text ∧
      Identity.ofYamlText text = some j ∧ j.workerId ≠ "" := by
  obtain ⟨n, -, hn⟩ := List.mem_filterMap.1 hj
  obtain ⟨rfl, text, hread, hparse, hy⟩ := kept.yamlIdentity_eq hn
  refine ⟨text, hread, hparse, fun empty => ?_⟩
  rw [empty] at hy
  exact absurd hy (by decide)

/-- The identity a worker's YAML file holds is a YAML identity of the directory, of that
worker. -/
theorem yamlIdentity_of_file {w text : String} {j : Identity} (hw : w ≠ "")
    (hread : f.readText (IdentityStore.fileName w) = .ok text)
    (hparse : Identity.ofYamlText text = some j) :
    j ∈ f.names.filterMap (IdentityStore.yamlIdentity f) ∧ j.workerId = w := by
  have hy := IdentityStore.extensionOf?_fileName hw
  have named := kept.named _ text j (.inl hy) hread hparse
  refine ⟨List.mem_filterMap.2 ⟨IdentityStore.fileName w, ?_, ?_⟩,
    (IdentityStore.fileName_injective named).symm⟩
  · obtain ⟨node, bytes, hmem⟩ := Folder.mem_entries_of_readText hread
    exact Folder.mem_names.2 ⟨_, hmem⟩
  · simp [IdentityStore.yamlIdentity, hy, hread, hparse]

/-- A worker without a YAML identity in the directory has its YAML file missing, or
holding no identity. -/
theorem noYaml_of_fresh {w : String} (hw : w ≠ "")
    (fresh : ∀ j ∈ f.names.filterMap (IdentityStore.yamlIdentity f), j.workerId ≠ w) :
    f.readText (IdentityStore.fileName w) = .error .notFound ∨
      ∃ text, f.readText (IdentityStore.fileName w) = .ok text ∧
        Identity.ofYamlText text = none := by
  rcases hread : f.readText (IdentityStore.fileName w) with e | text
  · exact .inl (by rw [kept.readable _ e (IdentityStore.extensionOf?_fileName hw) hread])
  · refine .inr ⟨text, rfl, ?_⟩
    rcases hparse : Identity.ofYamlText text with _ | j
    · rfl
    · obtain ⟨hj, rfl⟩ := kept.yamlIdentity_of_file hw hread hparse
      exact absurd rfl (fresh j hj)

/-- The listing of a directory the store keeps is its listed identities, sorted by worker
id. -/
theorem listing_present (store : IdentityStore) :
    store.listing (.present f) = .ok ((IdentityStore.listedIdentities f).mergeSort
      fun a b => decide (a.workerId ≤ b.workerId)) := by
  simp only [IdentityStore.listing,
    IdentityStore.foldlM_listYaml store [] fun n hn hy => kept.readText_yaml hn hy,
    List.nil_append, Except.map,
    IdentityStore.foldl_addLegacy _ (Legacy.scan_workerIds_nodup kept.distinct)]
  rfl

/-- No worker has two listed identities. -/
theorem listedIdentities_nodup :
    ((IdentityStore.listedIdentities f).map Identity.workerId).Nodup := by
  rw [IdentityStore.listedIdentities, List.map_append]
  refine List.nodup_append.2 ⟨?_, ?_, ?_⟩
  · -- YAML identities sit in the files of their workers, whose names are distinct
    refine nodup_map_filterMap (Folder.names_nodup kept.distinct)
      fun n _ n' _ j j' hj hj' same => ?_
    rw [(kept.yamlIdentity_eq hj).1, (kept.yamlIdentity_eq hj').1, same]
  · exact (List.filter_sublist.map _).nodup (Legacy.scan_workerIds_nodup kept.distinct)
  · intro x hx y hy same
    obtain ⟨j, hj, rfl⟩ := List.mem_map.1 hx
    obtain ⟨k, hk, rfl⟩ := List.mem_map.1 hy
    -- a legacy identity is kept only when no YAML identity has its worker
    have fresh := (List.mem_filter.1 hk).2
    simp only [Bool.not_eq_true', List.any_eq_false, beq_iff_eq] at fresh
    exact fresh j hj same

/-- A listed identity is what loading its worker gives. -/
theorem load_listed (store : IdentityStore) {s : StoreState} (hd : s.dir = .present f)
    {i : Identity} (hi : i ∈ IdentityStore.listedIdentities f) :
    runStoreStep (store.load i.workerId) s = (.ok i, s) := by
  rcases IdentityStore.mem_listedIdentities.1 hi with hi | ⟨hscan, fresh⟩
  · obtain ⟨text, hread, hparse, -⟩ := kept.file_of_yamlIdentity hi
    exact store.load_yaml hd hread hparse
  · -- a legacy identity is listed only when its worker has no YAML identity
    obtain ⟨⟨n, entry⟩, hmem, -, hload⟩ := Legacy.mem_scan.1 hscan
    obtain rfl : i.workerId = n := Legacy.load_workerId hload
    exact store.load_legacy hd (kept.noYaml_of_fresh (kept.nonempty _ hmem) fresh) hload

/-- A listed identity is findable under its worker's id. -/
theorem findable_listed {i : Identity} (hi : i ∈ IdentityStore.listedIdentities f) :
    f.Findable i.workerId := by
  rcases IdentityStore.mem_listedIdentities.1 hi with hi | ⟨hscan, -⟩
  · obtain ⟨text, hread, hparse, hw⟩ := kept.file_of_yamlIdentity hi
    exact .inr ⟨hw, text, i, hread, hparse⟩
  · obtain ⟨⟨n, entry⟩, hmem, cand, hload⟩ := Legacy.mem_scan.1 hscan
    obtain rfl : i.workerId = n := Legacy.load_workerId hload
    refine .inl ⟨kept.nonempty _ hmem, ?_⟩
    cases entry <;> simp_all [Legacy.isCandidate]

/-- What loading a findable worker gives is listed. -/
theorem listed_of_load (store : IdentityStore) {s : StoreState} (hd : s.dir = .present f)
    {w : String} {i : Identity} (findable : f.Findable w)
    (h : (runStoreStep (store.load w) s).1 = .ok i) :
    i ∈ IdentityStore.listedIdentities f ∧ i.workerId = w := by
  obtain ⟨-, f', hd', found⟩ := store.load_ok (Prod.ext h rfl)
  have same : f = f' := by rw [hd] at hd'; exact WorkersDir.present.inj hd'
  subst same
  rw [IdentityStore.mem_listedIdentities]
  rcases found with ⟨text, hread, hparse⟩ | ⟨noYaml, hload⟩
  · -- the YAML file holds it
    have hw : w ≠ "" := by rcases findable with h | h <;> exact h.1
    obtain ⟨hi, rfl⟩ := kept.yamlIdentity_of_file hw hread hparse
    exact ⟨.inl hi, rfl⟩
  · -- the legacy file holds it, and `w` is a legacy name
    obtain rfl : i.workerId = w := Legacy.load_workerId hload
    have legacyName : i.workerId ≠ "" ∧
        (!hasExtension i.workerId && !i.workerId.startsWith ".") = true := by
      rcases findable with h | ⟨-, text, j, hread, hparse⟩
      · exact h
      · exact absurd hparse (IdentityStore.no_identity_of_noYaml noYaml hread)
    obtain ⟨node, bytes, hmem⟩ := Legacy.mem_entries_of_load hload
    have hscan : i ∈ Legacy.scan f :=
      Legacy.mem_scan.2 ⟨(i.workerId, .file node bytes), hmem,
        by simpa [Legacy.isCandidate] using legacyName.2, hload⟩
    refine ⟨.inr ⟨hscan, fun j hj same => ?_⟩, rfl⟩
    obtain ⟨text, hread, hparse, -⟩ := kept.file_of_yamlIdentity hj
    rw [same] at hread
    exact IdentityStore.no_identity_of_noYaml noYaml hread hparse

end Folder.IdentitiesNamed

namespace IdentityStore

variable (store : IdentityStore)

/-- **What the listing holds** in a directory the store keeps: it succeeds, holds at most
one identity per worker, and holds an identity under a worker id exactly when the listing
looks for that id and loading it gives that identity. -/
theorem list_spec {s : StoreState} (usable : s.dir ≠ .blocked) (kept : s.folder.IdentitiesNamed) :
    ∃ listed, runStoreStep store.list s = (.ok listed, s) ∧
      (listed.map Identity.workerId).Nodup ∧
      ∀ w i, (i ∈ listed ∧ i.workerId = w ↔
        s.folder.Findable w ∧ (runStoreStep (store.load w) s).1 = .ok i) := by
  rcases hd : s.dir with _ | _ | f
  · -- no directory: nothing is listed and nothing loads
    refine ⟨[], by simp [list_run, hd, listing], by simp, fun w i => ?_⟩
    simp [load, hd]
  · exact absurd hd usable
  have folder : s.folder = f := by simp [StoreState.folder, hd]
  rw [folder] at kept ⊢
  refine ⟨(listedIdentities f).mergeSort fun a b => decide (a.workerId ≤ b.workerId),
    by rw [list_run, hd, kept.listing_present],
    ((List.mergeSort_perm _ _).map _).nodup_iff.2 kept.listedIdentities_nodup,
    fun w i => ⟨?_, ?_⟩⟩
  · rintro ⟨hi, rfl⟩
    have listed := List.mem_mergeSort.1 hi
    exact ⟨kept.findable_listed listed, congrArg Prod.fst (kept.load_listed store hd listed)⟩
  · rintro ⟨findable, h⟩
    obtain ⟨listed, rfl⟩ := kept.listed_of_load store hd findable h
    exact ⟨List.mem_mergeSort.2 listed, rfl⟩

end IdentityStore

/-! ## A directory the store keeps, and one it does not -/

/-- The store of the examples below. -/
def listingStore : IdentityStore := { dirPath := "/workers" }

/-- The identity of worker `worker-1`, not running. -/
def workerOne : Identity :=
  { workerId := "worker-1", username := "alice", queue := "default", platform := "linux-64",
    hostname := "builder", dist := "ubuntu-22.04" }

end BuildWorker
