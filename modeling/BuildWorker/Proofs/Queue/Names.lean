import Mathlib.Data.List.TakeDrop
import BuildWorker.Queue.Name
/-!
# Reading and writing queue names

A queue name is read by trimming blanks and splitting at the one slash between two
non-empty runs of name characters; it is written by joining the two sides with a slash.
The two are inverse because the three kinds of character involved never meet: no word
character is a blank or a slash (`isWordChar_of_isBlank`, `isWordChar_slash`), so a
written name has nothing to trim and its first slash is the one that joins it.

`QueueName.parse_eq_ok_iff` says exactly what reading accepts: a queue whose two sides
are runs of name characters, written as the input trimmed.  From it,
`QueueName.parse_render_inverse`: what is read writes back as the trimmed input and
reads back as itself, and two runs of name characters joined by a slash are read as
those two sides.

The word class is a table searched by halving; `inRanges_go_sound` says the search
answers yes only inside one of the table's ranges, and the table avoids every blank and
the slash (`wordRanges_avoid_gaps`, checked once over the whole table).
-/

set_option autoImplicit false

namespace BuildWorker.Text

/-- The search by halving answers yes only for a number inside a range of the table,
as long as its window lies within the table. -/
theorem inRanges_go_sound {table : Array (Nat × Nat)} {n lo hi : Nat}
    (hhi : hi ≤ table.size) (h : inRanges.go table n lo hi = true) :
    ∃ r ∈ table.toList, r.1 ≤ n ∧ n ≤ r.2 := by
  fun_induction inRanges.go table n lo hi with
  | case1 lo hi hlt mid a b hmid ha ih => exact ih (by omega) h
  | case2 lo hi hlt mid a b hmid ha hb ih => exact ih hhi h
  | case3 lo hi hlt mid a b hmid ha hb =>
      -- the middle entry is inside the table, and it holds `n`
      have hin : mid < table.size := by omega
      rw [getElem!_pos table mid hin] at hmid
      refine ⟨table[mid], Array.getElem_mem_toList hin, ?_, ?_⟩ <;> simp only [hmid] <;> omega
  | case4 => cases h

theorem mem_wordRanges_of_isWordChar {c : Char} (h : isWordChar c = true) :
    ∃ r ∈ wordRanges.toList, r.1 ≤ c.toNat ∧ c.toNat ≤ r.2 :=
  inRanges_go_sound (Nat.le_refl _) h

/-- Code points that are no word characters: the blanks, in ranges, and the slash. -/
def wordGaps : List (Nat × Nat) :=
  [(0x09, 0x0D), (0x20, 0x20), (0x2F, 0x2F), (0x85, 0x85), (0xA0, 0xA0), (0x1680, 0x1680),
   (0x2000, 0x200A), (0x2028, 0x2029), (0x202F, 0x202F), (0x205F, 0x205F), (0x3000, 0x3000)]

/-- No range of the word table meets a gap. -/
theorem wordRanges_avoid_gaps :
    wordRanges.toList.all (fun r => wordGaps.all fun g => r.2 < g.1 || g.2 < r.1) = true := by
  decide +kernel

theorem isWordChar_eq_false_of_gap {c : Char} {g : Nat × Nat} (hg : g ∈ wordGaps)
    (hlo : g.1 ≤ c.toNat) (hhi : c.toNat ≤ g.2) : isWordChar c = false := by
  cases hword : isWordChar c with
  | false => rfl
  | true =>
      obtain ⟨r, hr, hrlo, hrhi⟩ := mem_wordRanges_of_isWordChar hword
      have apart := List.all_eq_true.1 (List.all_eq_true.1 wordRanges_avoid_gaps r hr) g hg
      simp only [Bool.or_eq_true, decide_eq_true_eq] at apart
      omega

/-- **No blank is a word character.** -/
theorem isWordChar_of_isBlank {c : Char} (h : isBlank c = true) : isWordChar c = false := by
  simp only [isBlank, Bool.or_eq_true, Bool.and_eq_true, decide_eq_true_eq, beq_iff_eq] at h
  -- each blank lies in one gap
  have hgap : ∃ g ∈ wordGaps, g.1 ≤ c.toNat ∧ c.toNat ≤ g.2 := by
    simp only [wordGaps, List.mem_cons, List.not_mem_nil, or_false, exists_eq_or_imp,
      exists_eq_left]
    omega
  obtain ⟨g, hg, hlo, hhi⟩ := hgap
  exact isWordChar_eq_false_of_gap hg hlo hhi

theorem isWordChar_slash : isWordChar '/' = false :=
  isWordChar_eq_false_of_gap (g := (0x2F, 0x2F)) (by simp [wordGaps]) (by decide) (by decide)

/-- Trimming text with no blank in it changes nothing. -/
theorem trimBlank_of_forall {cs : List Char} (h : ∀ c ∈ cs, isBlank c = false) :
    trimBlank cs = cs := by
  have hkeep : ∀ ds : List Char, (∀ c ∈ ds, isBlank c = false) → ds.dropWhile isBlank = ds := by
    intro ds hds
    cases ds with
    | nil => rfl
    | cons d ds => simp [hds d List.mem_cons_self]
  rw [trimBlank, hkeep cs h, hkeep cs.reverse (by simpa using h), List.reverse_reverse]

end BuildWorker.Text

namespace BuildWorker.QueueName

open Text

theorem isNameChar_not_blank {c : Char} (h : isNameChar c = true) : isBlank c = false := by
  cases hb : isBlank c with
  | false => rfl
  | true =>
      simp only [isNameChar, isWordChar_of_isBlank hb, Bool.false_or, Bool.or_eq_true,
        beq_iff_eq] at h
      rcases h with rfl | rfl <;> simp [isBlank] at hb

theorem isNameChar_slash : isNameChar '/' = false := by
  simp [isNameChar, isWordChar_slash]

theorem isSide_iff {cs : List Char} : isSide cs = true ↔ cs ≠ [] ∧ ∀ c ∈ cs, isNameChar c = true := by
  simp [isSide]

/-- The sides are split at the first slash, which a side cannot hold. -/
theorem sides?_eq_some_iff {cs u v : List Char} :
    sides? cs = some (u, v) ↔ isSide u = true ∧ isSide v = true ∧ cs = u ++ '/' :: v := by
  unfold sides?
  rw [List.span_eq_takeWhile_dropWhile]
  constructor
  · intro h
    split at h
    next user rest queue hspan =>
      simp only [Prod.mk.injEq] at hspan
      split at h
      next hsides =>
        cases h
        simp only [Bool.and_eq_true] at hsides
        refine ⟨hsides.1, hsides.2, ?_⟩
        calc cs = cs.takeWhile (· != '/') ++ cs.dropWhile (· != '/') :=
              List.takeWhile_append_dropWhile.symm
          _ = u ++ '/' :: v := by rw [hspan.1, hspan.2]
      next => cases h
    next => cases h
  · rintro ⟨hu, hv, rfl⟩
    -- no character of `u` is a slash, so the split stops at the slash after it
    have hnot : ∀ c ∈ u, (c != '/') = true := by
      intro c hc
      have hname := (isSide_iff.1 hu).2 c hc
      simp only [bne_iff_ne, ne_eq]
      rintro rfl
      rw [isNameChar_slash] at hname
      cases hname
    rw [List.takeWhile_append_of_pos hnot, List.dropWhile_append_of_pos hnot]
    simp [hu, hv]

theorem not_blank_of_sides {u v : List Char} (hu : isSide u = true) (hv : isSide v = true) :
    ∀ c ∈ u ++ '/' :: v, isBlank c = false := by
  intro c hc
  simp only [List.mem_append, List.mem_cons] at hc
  rcases hc with hc | rfl | hc
  · exact isNameChar_not_blank ((isSide_iff.1 hu).2 c hc)
  · decide
  · exact isNameChar_not_blank ((isSide_iff.1 hv).2 c hc)

theorem render_toList (q : QueueName) : q.render.toList = q.user.toList ++ '/' :: q.queue.toList := by
  simp [render]

/-- **What reading accepts**: exactly the queues whose sides are runs of name
characters, written as the input trimmed. -/
theorem parse_eq_ok_iff {s : String} {q : QueueName} :
    parse s = .ok q ↔
      isSide q.user.toList = true ∧ isSide q.queue.toList = true ∧ trim s = q.render := by
  constructor
  · intro h
    unfold parse at h
    split at h
    next user queue hsides =>
      cases h
      obtain ⟨hu, hv, htrim⟩ := sides?_eq_some_iff.1 hsides
      refine ⟨by simpa using hu, by simpa using hv, ?_⟩
      rw [← String.toList_inj, render_toList, trim, String.toList_ofList, htrim]
      simp
    next => cases h
  · rintro ⟨hu, hv, htrim⟩
    have hchars : trimBlank s.toList = q.user.toList ++ '/' :: q.queue.toList := by
      rw [← render_toList, ← htrim, trim, String.toList_ofList]
    unfold parse
    rw [hchars, sides?_eq_some_iff.2 ⟨hu, hv, rfl⟩]
    simp

/-- A written name has nothing to trim. -/
theorem trim_render {q : QueueName} (hu : isSide q.user.toList = true)
    (hv : isSide q.queue.toList = true) : trim q.render = q.render := by
  rw [← String.toList_inj, trim, String.toList_ofList, render_toList,
    trimBlank_of_forall (not_blank_of_sides hu hv)]

/-- **Reading and writing queue names are inverse.**  A name that is read writes back
as the input trimmed, and reads back as itself; two non-empty runs of name characters
joined by a slash are read as those two sides. -/
theorem parse_render_inverse :
    (∀ (s : String) (q : QueueName), parse s = .ok q →
        q.render = trim s ∧ parse q.render = .ok q) ∧
      ∀ u v : String, u ≠ "" → v ≠ "" → u.toList.all isNameChar = true →
        v.toList.all isNameChar = true → parse (u ++ "/" ++ v) = .ok ⟨u, v⟩ := by
  constructor
  · intro s q h
    obtain ⟨hu, hv, htrim⟩ := parse_eq_ok_iff.1 h
    exact ⟨htrim.symm, parse_eq_ok_iff.2 ⟨hu, hv, trim_render hu hv⟩⟩
  · intro u v hu hv hun hvn
    have su : isSide u.toList = true := by simp_all [isSide]
    have sv : isSide v.toList = true := by simp_all [isSide]
    exact parse_eq_ok_iff.2 ⟨su, sv, trim_render (q := ⟨u, v⟩) su sv⟩

/-- The queue of the tests is read from its text, and written back as that text with the
blanks around it trimmed. -/
theorem parse_render_inverse_conda_forge :
    parse "conda-forge/linux-builds" = .ok ⟨"conda-forge", "linux-builds"⟩ ∧
      (⟨"conda-forge", "linux-builds"⟩ : QueueName).render = trim " conda-forge/linux-builds\n" := by
  have names : "conda-forge".toList.all isNameChar = true ∧
      "linux-builds".toList.all isNameChar = true := by
    decide +kernel
  have read := parse_render_inverse.2 "conda-forge" "linux-builds" (by decide) (by decide)
    names.1 names.2
  have padded : parse " conda-forge/linux-builds\n" = .ok ⟨"conda-forge", "linux-builds"⟩ :=
    parse_eq_ok_iff.2 ⟨(parse_eq_ok_iff.1 read).1, (parse_eq_ok_iff.1 read).2.1, by decide⟩
  exact ⟨read, (parse_render_inverse.1 _ _ padded).1⟩

end BuildWorker.QueueName
