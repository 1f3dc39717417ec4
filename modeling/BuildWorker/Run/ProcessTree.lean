/-!
# Killing a process tree

A build runs in its own process group, so the whole group is killed at once.
Descendants that moved to another group are found in a snapshot of the process table
taken before the kill: the table lists every process with its parent, and a process
with no parent, or a thread of another process, is no one's child.  A snapshot is
taken while processes come and go, so the child relation it gives is any finite
relation, cycles and self-loops included.

The descendants of a process are searched breadth first: a queue starts with the
process, and each process taken from its front has its children that are neither the
process searched from nor already found appended to the found list and to the queue.
The search stops when the queue is empty.  Each round either finds a process of the
table not found before or shortens the queue, so the search ends
(`ProcessTable.unfound_visit_lt`).

Killing the tree signals the group, then the process itself when the group is gone,
then each descendant of the snapshot still alive when its turn comes.
-/

set_option autoImplicit false

namespace BuildWorker

/-- One entry of a snapshot of the process table. -/
structure ProcessEntry where
  pid : UInt32
  /-- The parent process, if the table names one. -/
  parent : Option UInt32
  /-- Whether the entry is a thread of another process rather than a process. -/
  isThread : Bool
  deriving DecidableEq, Repr

/-- A snapshot of the process table, in the order it lists its entries. -/
abbrev ProcessTable := List ProcessEntry

namespace ProcessTable

/-- The children of a process, in the order the table lists them; threads are no
children. -/
def children (t : ProcessTable) (p : UInt32) : List UInt32 :=
  (t.filter fun e => !e.isThread && e.parent == some p).map (·.pid)

/-- The process ids of the table. -/
def pids (t : ProcessTable) : List UInt32 := t.map (·.pid)

/-- The processes of the table not found yet, counted by entry. -/
def unfound (t : ProcessTable) (found : List UInt32) : Nat :=
  (t.pids.filter fun p => !found.contains p).length

/-- One round of the search: each child that is neither the process searched from nor
found yet is found and queued, in order. -/
def visit (root : UInt32) : List UInt32 → List UInt32 → List UInt32 → List UInt32 × List UInt32
  | [], found, queue => (found, queue)
  | kid :: kids, found, queue =>
      if kid != root && !found.contains kid then visit root kids (found ++ [kid]) (queue ++ [kid])
      else visit root kids found queue

/-- **What a round adds**: the same new processes to the found list and to the queue,
each a child that is neither the process searched from nor found before, once; after
it, every child but the process searched from is found. -/
theorem visit_spec (root : UInt32) (kids found queue : List UInt32) :
    ∃ new, visit root kids found queue = (found ++ new, queue ++ new) ∧
      (∀ x ∈ new, x ∈ kids ∧ x ≠ root ∧ x ∉ found) ∧ new.Nodup ∧
      ∀ k ∈ kids, k ≠ root → k ∈ found ++ new := by
  induction kids generalizing found queue with
  | nil => exact ⟨[], by simp [visit], by simp, List.nodup_nil, by simp⟩
  | cons kid kids ih =>
      by_cases fresh : (kid != root && !found.contains kid) = true
      · have hkid : kid ≠ root ∧ kid ∉ found := by simpa using fresh
        obtain ⟨new, run, hnew, nodup, all⟩ := ih (found ++ [kid]) (queue ++ [kid])
        refine ⟨kid :: new, ?_, ?_, ?_, ?_⟩
        · rw [visit, if_pos fresh, run]
          simp
        · rintro x (_ | ⟨_, hx⟩)
          · exact ⟨List.mem_cons_self, hkid⟩
          · obtain ⟨hk, hr, hf⟩ := hnew x hx
            exact ⟨List.mem_cons_of_mem _ hk, hr, fun h => hf (List.mem_append_left _ h)⟩
        · exact List.nodup_cons.2 ⟨fun h => (hnew kid h).2.2 (by simp), nodup⟩
        · intro k hk hkr
          rcases List.mem_cons.1 hk with rfl | hk
          · simp
          · simpa using all k hk hkr
      · -- the child is the process searched from, or found already
        have hkid : kid ≠ root → kid ∈ found := by simpa using fresh
        obtain ⟨new, run, hnew, nodup, all⟩ := ih found queue
        refine ⟨new, ?_, fun x hx => ?_, nodup, ?_⟩
        · rw [visit, if_neg fresh, run]
        · obtain ⟨hk, hr, hf⟩ := hnew x hx
          exact ⟨List.mem_cons_of_mem _ hk, hr, hf⟩
        · intro k hk hkr
          rcases List.mem_cons.1 hk with rfl | hk
          · exact List.mem_append_left _ (hkid hkr)
          · exact all k hk hkr

theorem mem_pids_of_mem_children {t : ProcessTable} {p x : UInt32} (h : x ∈ t.children p) :
    x ∈ t.pids := by
  obtain ⟨e, he, rfl⟩ := List.mem_map.1 h
  exact List.mem_map_of_mem (List.mem_filter.1 he).1

/-- Finding processes of the table not found before leaves fewer to find. -/
theorem unfound_append_lt {t : ProcessTable} {found new : List UInt32} (hne : new ≠ [])
    (hnew : ∀ x ∈ new, x ∈ t.pids ∧ x ∉ found) : t.unfound (found ++ new) < t.unfound found := by
  obtain ⟨x, hx⟩ := List.exists_mem_of_ne_nil new hne
  unfold unfound
  -- the processes left to find are among those left before, and `x` is no longer one
  have sub : t.pids.filter (fun p => !(found ++ new).contains p) =
      (t.pids.filter fun p => !found.contains p).filter fun p => !(found ++ new).contains p := by
    rw [List.filter_filter]
    congr 1
    funext p
    by_cases hp : p ∈ found <;> simp [hp]
  rw [sub, List.length_filter_lt_length_iff_exists]
  exact ⟨x, List.mem_filter.2 ⟨(hnew x hx).1, by simp [(hnew x hx).2]⟩, by simp [hx]⟩

/-- **Each round makes progress**: it finds a process of the table not found before, or
it finds none and the queue is shorter by the process it took. -/
theorem unfound_visit_lt (t : ProcessTable) (root current : UInt32) (found rest : List UInt32) :
    Prod.Lex (· < ·) (· < ·)
      (t.unfound (visit root (t.children current) found rest).1,
        (visit root (t.children current) found rest).2.length)
      (t.unfound found, (current :: rest).length) := by
  obtain ⟨new, run, hnew, -, -⟩ := visit_spec root (t.children current) found rest
  rw [run]
  rcases List.eq_nil_or_concat new with rfl | ⟨init, last, rfl⟩
  · simp only [List.append_nil, List.length_cons]
    exact Prod.Lex.right _ (Nat.lt_succ_self _)
  · exact Prod.Lex.left _ _ (unfound_append_lt (by simp) fun x hx =>
      ⟨mem_pids_of_mem_children (hnew x hx).1, (hnew x hx).2.2⟩)

/-- The breadth-first search, from a found list and a queue. -/
def search (t : ProcessTable) (root : UInt32) (found queue : List UInt32) : List UInt32 :=
  match queue with
  | [] => found
  | current :: rest =>
      search t root (visit root (t.children current) found rest).1
        (visit root (t.children current) found rest).2
termination_by (t.unfound found, queue.length)
decreasing_by exact unfound_visit_lt t root current found rest

/-- The descendants of a process in a snapshot, breadth first. -/
def descendants (t : ProcessTable) (root : UInt32) : List UInt32 :=
  search t root [] [root]

end ProcessTable

/-- A kill signal: to a process group, or to one process. -/
inductive KillSignal where
  | group (pid : UInt32)
  | process (pid : UInt32)
  deriving DecidableEq, Repr

/-- The signals killing a process tree sends, the descendants taken from a snapshot
before any signal.  `groupKilled` is whether the process group could be signalled, and
`alive` whether a descendant still exists when its turn comes. -/
def killTree (t : ProcessTable) (root : UInt32) (groupKilled : Bool) (alive : UInt32 → Bool) :
    List KillSignal :=
  let children := t.descendants root
  .group root :: (if groupKilled then [] else [.process root]) ++
    (children.filter alive).map .process

end BuildWorker
