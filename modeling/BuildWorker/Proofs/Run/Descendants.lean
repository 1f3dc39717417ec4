import Mathlib
import BuildWorker.Run.ProcessTree
/-!
# The descendants of a process, breadth first

The search of `ProcessTable.descendants` runs over a snapshot whose child relation is any
finite relation, cycles and self-loops included; it ends by the measure of
`ProcessTable.search`, the processes not found yet and then the queue length.  This
module says what it returns (`ProcessTable.descendants_breadth_first`): every process
reached from the root through one child step or more, each once, never the root, and
nearer processes first; so killing the tree signals each process at most once.

Nearness counts child steps: `ReachesIn t root n x` reaches `x` in exactly `n` steps,
`Within t root n x` in at most `n`, and `depth` is the fewest.  The queue carries the
invariant of breadth-first search (`SearchInv`): the seen processes, the root and those
found, are the processes taken from the queue followed by the queue, none twice; the
children of a process taken are seen; the seen processes are in order of depth, the
queue spans two depths at most, and every process no deeper than the front of the queue
is seen.  `SearchInv.step` says one round keeps it, from `visit_spec`; the last field is
the one that needs care, since a process one step deeper than the new front may have
its parent anywhere before the front.  When the queue is empty every seen process has
been taken, so the seen processes are closed under the child relation and hold every
process the root reaches (`SearchInv.mem_of_reachesIn`).
-/

set_option autoImplicit false

namespace BuildWorker.ProcessTable

/-- A process reached from `root` in exactly `n` child steps. -/
inductive ReachesIn (t : ProcessTable) (root : UInt32) : Nat → UInt32 → Prop
  | root : ReachesIn t root 0 root
  | child {n : Nat} {p c : UInt32} : ReachesIn t root n p → c ∈ t.children p →
      ReachesIn t root (n + 1) c

/-- A process reached from `root` in at most `n` child steps. -/
def Within (t : ProcessTable) (root : UInt32) (n : Nat) (x : UInt32) : Prop :=
  ∃ m ≤ n, t.ReachesIn root m x

open Classical in
/-- The fewest child steps from `root` to a process it reaches (zero for one it does not
reach). -/
noncomputable def depth (t : ProcessTable) (root x : UInt32) : Nat :=
  if h : ∃ n, t.ReachesIn root n x then Nat.find h else 0

section Depth

variable {t : ProcessTable} {root : UInt32}

theorem reachesIn_zero {x : UInt32} : t.ReachesIn root 0 x ↔ x = root := by
  constructor
  · intro h
    cases h
    rfl
  · rintro rfl
    exact .root

/-- Reaching in one step or more is reaching through the child relation. -/
theorem transGen_of_reachesIn {n : Nat} {x : UInt32} (h : t.ReachesIn root (n + 1) x) :
    Relation.TransGen (fun p c => c ∈ t.children p) root x := by
  induction n generalizing x with
  | zero =>
      cases h with
      | child hp hc => exact reachesIn_zero.1 hp ▸ .single hc
  | succ n ih =>
      cases h with
      | child hp hc => exact .tail (ih hp) hc

theorem reachesIn_of_transGen {x : UInt32}
    (h : Relation.TransGen (fun p c => c ∈ t.children p) root x) :
    ∃ n, t.ReachesIn root (n + 1) x := by
  induction h with
  | single hc => exact ⟨0, .child .root hc⟩
  | tail _ hc ih =>
      obtain ⟨n, hn⟩ := ih
      exact ⟨n + 1, .child hn hc⟩

theorem depth_le {n : Nat} {x : UInt32} (h : t.ReachesIn root n x) : t.depth root x ≤ n := by
  classical
  have hex : ∃ n, t.ReachesIn root n x := ⟨n, h⟩
  rw [depth, dif_pos hex]
  exact Nat.find_min' hex h

theorem reachesIn_depth {n : Nat} {x : UInt32} (h : t.ReachesIn root n x) :
    t.ReachesIn root (t.depth root x) x := by
  classical
  have hex : ∃ n, t.ReachesIn root n x := ⟨n, h⟩
  rw [depth, dif_pos hex]
  exact Nat.find_spec hex

theorem depth_root : t.depth root root = 0 :=
  Nat.le_zero.1 (depth_le .root)

theorem depth_child {n : Nat} {p c : UInt32} (hp : t.ReachesIn root n p)
    (hc : c ∈ t.children p) : t.depth root c ≤ t.depth root p + 1 :=
  depth_le (.child (reachesIn_depth hp) hc)

/-- A process at depth `d + 1` is a child of one reached in `d` steps. -/
theorem exists_parent_of_depth {n d : Nat} {x : UInt32} (h : t.ReachesIn root n x)
    (hd : t.depth root x = d + 1) : ∃ p, t.ReachesIn root d p ∧ x ∈ t.children p := by
  have hx := reachesIn_depth h
  rw [hd] at hx
  cases hx with
  | child hp hc => exact ⟨_, hp, hc⟩

theorem within_of_depth_le {m n : Nat} {x : UInt32} (h : t.ReachesIn root m x)
    (hn : t.depth root x ≤ n) : t.Within root n x :=
  ⟨_, hn, reachesIn_depth h⟩

theorem depth_le_of_within {n : Nat} {x : UInt32} (h : t.Within root n x) :
    t.depth root x ≤ n := by
  obtain ⟨m, hm, hx⟩ := h
  exact (depth_le hx).trans hm

end Depth

/-- What holds before each round of the search from `root`: the seen processes, `root`
and those found, are those taken from the queue (`done`) followed by the queue. -/
structure SearchInv (t : ProcessTable) (root : UInt32) (done found queue : List UInt32) :
    Prop where
  nodup : (root :: found).Nodup
  seen : root :: found = done ++ queue
  /-- The children of a process taken from the queue are seen. -/
  closed : ∀ p ∈ done, ∀ c ∈ t.children p, c ∈ root :: found
  reached : ∀ x ∈ found, ∃ n, t.ReachesIn root n x
  sorted : (root :: found).Pairwise fun a b => t.depth root a ≤ t.depth root b
  /-- The queue spans at most two depths. -/
  span : ∀ a ∈ queue, ∀ b ∈ queue, t.depth root b ≤ t.depth root a + 1
  /-- Every reached process no deeper than the front of the queue is seen. -/
  near : ∀ h ∈ queue.head?, ∀ x n, t.ReachesIn root n x → t.depth root x ≤ t.depth root h →
    x ∈ root :: found

section Search

variable {t : ProcessTable} {root : UInt32}

theorem searchInv_start : SearchInv t root [] [] [root] where
  nodup := List.nodup_singleton root
  seen := rfl
  closed := by simp
  reached := by simp
  sorted := List.pairwise_singleton _ _
  span := by simp
  near := by
    intro h hh x n hx hd
    -- the front is the root, and only the root is at depth zero
    obtain rfl : root = h := by simpa using hh
    rw [depth_root, Nat.le_zero] at hd
    have hroot := reachesIn_depth hx
    rw [hd, reachesIn_zero] at hroot
    simp [hroot]

namespace SearchInv

variable {done found queue rest : List UInt32} {current : UInt32}

theorem reached_seen (inv : SearchInv t root done found queue) {x : UInt32}
    (hx : x ∈ root :: found) : ∃ n, t.ReachesIn root n x := by
  rcases List.mem_cons.1 hx with rfl | hx
  · exact ⟨0, .root⟩
  · exact inv.reached x hx

theorem sorted_queue (inv : SearchInv t root done found queue) :
    queue.Pairwise fun a b => t.depth root a ≤ t.depth root b := by
  have h := inv.sorted
  rw [inv.seen, List.pairwise_append] at h
  exact h.2.1

/-- The processes taken from the queue are no deeper than its front. -/
theorem depth_done_le (inv : SearchInv t root done found (current :: rest)) :
    ∀ a ∈ done, t.depth root a ≤ t.depth root current := by
  have h := inv.sorted
  rw [inv.seen, List.pairwise_append] at h
  exact fun a ha => h.2.2 a ha current List.mem_cons_self

/-- A process found from the front of the queue is one step deeper than the front: it
is not seen, so it is deeper. -/
theorem depth_of_new (inv : SearchInv t root done found (current :: rest)) {x : UInt32}
    (hc : x ∈ t.children current) (hr : x ≠ root) (hf : x ∉ found) :
    t.depth root x = t.depth root current + 1 := by
  obtain ⟨n, hn⟩ := inv.reached_seen (x := current) (by rw [inv.seen]; simp)
  have hle := depth_child hn hc
  have hgt : ¬ t.depth root x ≤ t.depth root current := by
    intro hd
    have hseen := inv.near current (by simp) x _ (.child hn hc) hd
    simp [hr, hf] at hseen
  omega

/-- After a round the children of every process taken are seen: those of the front
are found in the round, unless they are the root. -/
theorem closed_step (inv : SearchInv t root done found (current :: rest)) {new : List UInt32}
    (all : ∀ k ∈ t.children current, k ≠ root → k ∈ found ++ new) :
    ∀ p ∈ done ++ [current], ∀ c ∈ t.children p, c ∈ root :: (found ++ new) := by
  intro p hp c hc
  rcases List.mem_append.1 hp with hp | hp
  · have hc := inv.closed p hp c hc
    simp only [List.mem_cons, List.mem_append] at hc ⊢
    tauto
  · obtain rfl : p = current := List.mem_singleton.1 hp
    by_cases hcr : c = root
    · simp [hcr]
    · exact List.mem_cons_of_mem _ (all c hc hcr)

/-- Every process seen before a round is at most one step deeper than the front: those
taken are no deeper, and the queue spans two depths. -/
theorem depth_seen_le (inv : SearchInv t root done found (current :: rest)) :
    ∀ a ∈ root :: found, t.depth root a ≤ t.depth root current + 1 := by
  intro a ha
  rw [inv.seen] at ha
  rcases List.mem_append.1 ha with ha | ha
  · exact (inv.depth_done_le a ha).trans (Nat.le_succ _)
  · exact inv.span current List.mem_cons_self a ha

/-- After a round, a process no deeper than the new front is seen: it is seen already,
or it is one step deeper than the old front and its parent, no deeper than the old
front, has been taken. -/
theorem near_step (inv : SearchInv t root done found (current :: rest)) {new : List UInt32}
    (hdepth : ∀ x ∈ new, t.depth root x = t.depth root current + 1)
    (all : ∀ k ∈ t.children current, k ≠ root → k ∈ found ++ new) :
    ∀ h ∈ (rest ++ new).head?, ∀ x n, t.ReachesIn root n x → t.depth root x ≤ t.depth root h →
      x ∈ root :: (found ++ new) := by
  intro h hh x n hx hd
  have hmem : h ∈ rest ++ new := List.mem_of_mem_head? hh
  have hfront : ∀ y ∈ rest, t.depth root h ≤ t.depth root y := by
    cases rest with
    | nil => simp
    | cons r rs =>
        obtain rfl : r = h := by simpa using hh
        intro y hy
        rcases List.mem_cons.1 hy with rfl | hy
        · exact le_rfl
        · exact (List.pairwise_cons.1 (List.pairwise_cons.1 inv.sorted_queue).2).1 y hy
  have hh1 : t.depth root h ≤ t.depth root current + 1 := by
    rcases List.mem_append.1 hmem with hm | hm
    · exact inv.span current List.mem_cons_self h (List.mem_cons_of_mem _ hm)
    · exact (hdepth h hm).le
  by_cases hx1 : t.depth root x ≤ t.depth root current
  · have hseen := inv.near current (by simp) x n hx hx1
    simp only [List.mem_cons, List.mem_append] at hseen ⊢
    tauto
  · obtain ⟨p, hp, hpx⟩ := exists_parent_of_depth hx (d := t.depth root current) (by omega)
    have hpseen := inv.near current (by simp) p _ hp (depth_le hp)
    rw [inv.seen] at hpseen
    rcases List.mem_append.1 hpseen with hpd | hpq
    · exact inv.closed_step all p (List.mem_append_left _ hpd) x hpx
    · rcases List.mem_cons.1 hpq with rfl | hpr
      · exact inv.closed_step all p (by simp) x hpx
      · -- a parent still queued would be deeper than the front
        have := hfront p hpr
        have := depth_le hp
        omega

/-- **One round keeps the invariant**: the front is taken, and its children not seen
yet are found and queued. -/
theorem step (inv : SearchInv t root done found (current :: rest)) :
    SearchInv t root (done ++ [current]) (visit root (t.children current) found rest).1
      (visit root (t.children current) found rest).2 := by
  obtain ⟨new, run, hnew, nodup, all⟩ := visit_spec root (t.children current) found rest
  rw [run]
  have hdepth : ∀ x ∈ new, t.depth root x = t.depth root current + 1 := fun x hx =>
    inv.depth_of_new (hnew x hx).1 (hnew x hx).2.1 (hnew x hx).2.2
  have hseen : root :: (found ++ new) = (done ++ current :: rest) ++ new := by
    rw [← inv.seen, List.cons_append]
  refine ⟨?_, by rw [hseen]; simp, inv.closed_step all, ?_, ?_, ?_, inv.near_step hdepth all⟩
  · -- nodup: the new processes are neither the root nor found before
    rw [← List.cons_append, List.nodup_append]
    refine ⟨inv.nodup, nodup, fun a ha b hb hab => ?_⟩
    subst hab
    rcases List.mem_cons.1 ha with rfl | ha
    · exact (hnew a hb).2.1 rfl
    · exact (hnew a hb).2.2 ha
  · -- reached: a new process is a child of the front
    intro x hx
    rcases List.mem_append.1 hx with hx | hx
    · exact inv.reached x hx
    · obtain ⟨n, hn⟩ := inv.reached_seen (x := current) (by rw [inv.seen]; simp)
      exact ⟨n + 1, .child hn (hnew x hx).1⟩
  · -- sorted: the new processes all have the depth of the front plus one
    rw [← List.cons_append, List.pairwise_append]
    refine ⟨inv.sorted, List.pairwise_of_forall_mem_list fun a ha b hb => ?_,
      fun a ha b hb => ?_⟩
    · rw [hdepth a ha, hdepth b hb]
    · rw [hdepth b hb]
      exact inv.depth_seen_le a ha
  · -- span: the new queue holds depths of the front and one more
    have hbounds : ∀ a ∈ rest ++ new, t.depth root current ≤ t.depth root a ∧
        t.depth root a ≤ t.depth root current + 1 := by
      intro a ha
      rcases List.mem_append.1 ha with ha | ha
      · exact ⟨(List.pairwise_cons.1 inv.sorted_queue).1 a ha,
          inv.span current List.mem_cons_self a (List.mem_cons_of_mem _ ha)⟩
      · rw [hdepth a ha]
        exact ⟨Nat.le_succ _, le_rfl⟩
    intro a ha b hb
    have := hbounds a ha
    have := hbounds b hb
    omega

/-- With the queue empty every seen process has been taken, so the seen processes hold
every process the root reaches. -/
theorem mem_of_reachesIn (inv : SearchInv t root done found []) {n : Nat} {x : UInt32}
    (h : t.ReachesIn root n x) : x ∈ root :: found := by
  have hdone : root :: found = done := by simpa using inv.seen
  induction h with
  | root => exact List.mem_cons_self
  | child _ hc ih => exact inv.closed _ (hdone ▸ ih) _ hc

/-- **The whole search keeps the invariant**, round by round, until the queue is empty. -/
theorem search (inv : SearchInv t root done found queue) :
    ∃ done', SearchInv t root done' (t.search root found queue) [] := by
  fun_induction t.search root found queue generalizing done with
  | case1 found => exact ⟨done, inv⟩
  | case2 found current rest ih => exact ih inv.step

end SearchInv

theorem exists_searchInv_descendants (t : ProcessTable) (root : UInt32) :
    ∃ done, SearchInv t root done (t.descendants root) [] :=
  searchInv_start.search

theorem nodup_descendants : (t.descendants root).Nodup := by
  obtain ⟨_, inv⟩ := exists_searchInv_descendants t root
  exact (List.nodup_cons.1 inv.nodup).2

theorem root_not_mem_descendants : root ∉ t.descendants root := by
  obtain ⟨_, inv⟩ := exists_searchInv_descendants t root
  exact (List.nodup_cons.1 inv.nodup).1

theorem mem_descendants_iff {x : UInt32} :
    x ∈ t.descendants root ↔
      x ≠ root ∧ Relation.TransGen (fun p c => c ∈ t.children p) root x := by
  obtain ⟨_, inv⟩ := exists_searchInv_descendants t root
  constructor
  · intro hx
    refine ⟨fun h => root_not_mem_descendants (h ▸ hx), ?_⟩
    -- a found process is reached, in one step or more since it is not the root
    obtain ⟨n, hn⟩ := inv.reached x hx
    cases n with
    | zero => exact absurd hx (reachesIn_zero.1 hn ▸ root_not_mem_descendants)
    | succ n => exact transGen_of_reachesIn hn
  · rintro ⟨hne, hx⟩
    obtain ⟨n, hn⟩ := reachesIn_of_transGen hx
    exact (List.mem_cons.1 (inv.mem_of_reachesIn hn)).resolve_left hne

/-- The descendants come in order of depth. -/
theorem descendants_sorted :
    (t.descendants root).Pairwise fun a b => t.depth root a ≤ t.depth root b := by
  obtain ⟨_, inv⟩ := exists_searchInv_descendants t root
  exact (List.pairwise_cons.1 inv.sorted).2

end Search

/-- Killing a tree signals a process on its own at most once: the root only when its
group could not be signalled, and the descendants are distinct and never the root. -/
theorem count_process_killTree_le_one (t : ProcessTable) (root : UInt32) (groupKilled : Bool)
    (alive : UInt32 → Bool) (x : UInt32) :
    (killTree t root groupKilled alive).count (.process x) ≤ 1 := by
  have hfiltered : ((t.descendants root).filter alive).Nodup :=
    nodup_descendants.filter alive
  have hinj : Function.Injective KillSignal.process := fun _ _ h => KillSignal.process.inj h
  have hsignals : ((if groupKilled then [] else [KillSignal.process root]) ++
      ((t.descendants root).filter alive).map KillSignal.process).Nodup := by
    refine List.nodup_append.2 ⟨by split <;> simp, hfiltered.map hinj,
      fun a ha b hb hab => ?_⟩
    subst hab
    split at ha
    · cases ha
    · obtain rfl := List.mem_singleton.1 ha
      obtain ⟨y, hy, hyr⟩ := List.mem_map.1 hb
      cases hyr
      exact root_not_mem_descendants (List.mem_filter.1 hy).1
  rw [killTree, List.cons_append, List.count_cons_of_ne (by simp)]
  exact List.nodup_iff_count_le_one.1 hsignals _

/-- **The descendants of a process, breadth first.**  For every snapshot and every
process, the search returns each process reached from it through one child step or
more, once, never the process itself, and no process before one nearer to the root;
killing the tree therefore signals each process on its own at most once. -/
theorem descendants_breadth_first (t : ProcessTable) (root : UInt32) :
    (t.descendants root).Nodup ∧
      (∀ x, x ∈ t.descendants root ↔
        x ≠ root ∧ Relation.TransGen (fun p c => c ∈ t.children p) root x) ∧
      (t.descendants root).Pairwise (fun a b => ∀ n, t.Within root n b → t.Within root n a) ∧
      ∀ groupKilled alive x, (killTree t root groupKilled alive).count (.process x) ≤ 1 := by
  refine ⟨nodup_descendants, fun x => mem_descendants_iff, ?_,
    count_process_killTree_le_one t root⟩
  -- an earlier process is no deeper, and it is reached, so it is within any bound of a later one
  refine descendants_sorted.imp_of_mem fun {a b} ha _ hab n hb => ?_
  obtain ⟨m, hm⟩ := (mem_descendants_iff.1 ha).2 |> reachesIn_of_transGen
  exact within_of_depth_le hm (hab.trans (depth_le_of_within hb))

end BuildWorker.ProcessTable
