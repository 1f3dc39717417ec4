import Mathlib
import BuildWorker.Json.Reader
import BuildWorker.Proofs.Text.Utf8
/-!
# Reading JSON text, byte by byte

A reader runs over a cursor, and what it does depends only on the bytes after the
cursor and the nesting levels left.  `Reads x w v after depth` says that `x` reads the
bytes `w` as the value `v`: from any cursor whose unread bytes are `w` followed by bytes
that `after` accepts, with more than `depth` levels left, it gives `v` and stops right
after `w`, with the levels as they were.  The condition `after` is what the reader looks
at past its own bytes (a number stops at the first byte that cannot continue it); for
most readers it is `True`.

Readers of whole values are put together from this module's lemmas without looking at
cursors again: `Reads.bind` reads one part after another, `Reads.nested` reads inside a
bracket (spending a level and giving it back), `Reads.placing` passes a success through
unchanged, and the lemmas for `skipSpace`, `hasNextItem`, `hasNextKey`, `readColon`,
`closeList`, `closeObject` and `readOptional` say how the brackets of compact JSON are
read.  Readers whose loops take their bound from the bytes left (`stepsLeft`) are
proved at the cursor level, where that bound is known.
-/

set_option autoImplicit false

namespace BuildWorker.Json

/-- What a reader gives from a cursor: its result, and the cursor where it stopped. -/
def Reader.go {α : Type} (x : Reader α) (c : Cursor) : Except ReadError α × Cursor :=
  x.run.run c

/-- The bytes after the cursor. -/
def Cursor.rest (c : Cursor) : List UInt8 := c.bytes.toList.drop c.offset

/-- The cursor moved on by `k` bytes. -/
def Cursor.advance (c : Cursor) (k : Nat) : Cursor := { c with offset := c.offset + k }

/-- The bytes that compact JSON never holds between tokens but a reader skips. -/
def isSpaceByte (b : UInt8) : Bool := b == 32 || b == 10 || b == 9 || b == 13

/-! ## Running readers -/

section Run

variable {α β : Type}

@[simp] theorem go_bind (x : Reader α) (f : α → Reader β) (c : Cursor) :
    (x >>= f).go c =
      match x.go c with
      | (.ok a, c') => (f a).go c'
      | (.error e, c') => (.error e, c') := by
  simp only [Reader.go, ExceptT.run_bind, StateT.run_bind]
  rcases (x.run.run c) with ⟨_ | _, _⟩ <;> rfl

@[simp] theorem go_map (g : α → β) (x : Reader α) (c : Cursor) :
    (g <$> x).go c =
      match x.go c with
      | (.ok a, c') => (.ok (g a), c')
      | (.error e, c') => (.error e, c') := by
  simp only [Reader.go, ExceptT.run_map, StateT.run_map]
  rcases (x.run.run c) with ⟨_ | _, _⟩ <;> rfl

@[simp] theorem go_pure (a : α) (c : Cursor) : (pure a : Reader α).go c = (.ok a, c) := rfl

@[simp] theorem go_throw (e : ReadError) (c : Cursor) :
    (throw e : Reader α).go c = (.error e, c) := rfl

@[simp] theorem go_get (c : Cursor) : (get : Reader Cursor).go c = (.ok c, c) := rfl

@[simp] theorem go_set (c c' : Cursor) : (set c' : Reader PUnit).go c = (.ok ⟨⟩, c') := rfl

@[simp] theorem go_modify (g : Cursor → Cursor) (c : Cursor) :
    (modify g : Reader PUnit).go c = (.ok ⟨⟩, g c) := rfl

@[simp] theorem go_tryCatch (x : Reader α) (handle : ReadError → Reader α) (c : Cursor) :
    (tryCatch x handle).go c =
      match x.go c with
      | (.ok a, c') => (.ok a, c')
      | (.error e, c') => (handle e).go c' := by
  unfold Reader.go
  show (ExceptT.tryCatch x handle).run.run c = _
  unfold ExceptT.tryCatch
  simp only [ExceptT.run_mk, StateT.run_bind]
  rcases h : x.run.run c with ⟨_ | _, _⟩ <;> simp only [ExceptT.run] at h <;> simp [h] <;> rfl

end Run

/-! ## The cursor -/

namespace Cursor

variable {c : Cursor} {w rest : List UInt8}

@[simp] theorem advance_zero (c : Cursor) : c.advance 0 = c := rfl

theorem advance_advance (c : Cursor) (a b : Nat) : (c.advance a).advance b = c.advance (a + b) := by
  simp [advance, Nat.add_assoc]

@[simp] theorem levels_advance (c : Cursor) (k : Nat) : (c.advance k).levels = c.levels := rfl

theorem rest_advance (h : c.rest = w ++ rest) : (c.advance w.length).rest = rest := by
  simp only [Cursor.rest, advance] at h ⊢
  rw [← List.drop_drop, h, List.drop_left]

theorem rest_advance_one {b : UInt8} (h : c.rest = b :: rest) : (c.advance 1).rest = rest :=
  rest_advance (w := [b]) h

theorem getElem?_bytes (c : Cursor) (k : Nat) : c.bytes[c.offset + k]? = c.rest[k]? := by
  have hdata : c.bytes[c.offset + k]? = c.bytes.data[c.offset + k]? := rfl
  simp only [Cursor.rest, List.getElem?_drop, Text.ByteArray.toList_eq, Array.getElem?_toList, hdata]

theorem length_rest (c : Cursor) : c.rest.length = c.bytes.size - c.offset := by
  simp [Cursor.rest, Text.ByteArray.toList_eq]

end Cursor

/-! ## Primitive readers -/

section Primitive

variable {c : Cursor} {b : UInt8} {rest : List UInt8}

@[simp] theorem go_peekByte (c : Cursor) : peekByte.go c = (.ok c.rest.head?, c) := by
  have h := c.getElem?_bytes 0
  rw [Nat.add_zero, ← List.head?_eq_getElem?] at h
  simp [peekByte, h]

@[simp] theorem go_bump (c : Cursor) : bump.go c = (.ok (), c.advance 1) := rfl

theorem go_nextByte (h : c.rest = b :: rest) : nextByte.go c = (.ok (some b), c.advance 1) := by
  simp [nextByte, h]

@[simp] theorem go_stepsLeft (c : Cursor) : stepsLeft.go c = (.ok (c.rest.length + 2), c) := by
  simp [stepsLeft, Cursor.length_rest]

theorem go_skipSpaceFor_cons (n : Nat) (h : c.rest = b :: rest) (hb : isSpaceByte b = false) :
    (skipSpaceFor n).go c = (.ok (some b), c) := by
  cases n with
  | zero => simp [skipSpaceFor, h]
  | succ n =>
      have hns : ¬ (((b = 32 ∨ b = 10) ∨ b = 9) ∨ b = 13) := by simpa [isSpaceByte] using hb
      simp [skipSpaceFor, h, hns]

theorem go_skipSpaceFor_nil (n : Nat) (h : c.rest = []) : (skipSpaceFor n).go c = (.ok none, c) := by
  cases n <;> simp [skipSpaceFor, h]

theorem go_skipSpace_cons (h : c.rest = b :: rest) (hb : isSpaceByte b = false) :
    skipSpace.go c = (.ok (some b), c) := by
  simp [skipSpace, go_skipSpaceFor_cons _ h hb]

theorem go_skipSpace_nil (h : c.rest = []) : skipSpace.go c = (.ok none, c) := by
  simp [skipSpace, go_skipSpaceFor_nil _ h]

end Primitive

/-! ## Reading bytes as a value -/

/-- `x` reads the bytes `w` as `v`: from any cursor whose unread bytes are `w` followed
by bytes that `after` accepts, with more than `depth` levels left, it gives `v` and
stops right after `w`. -/
def Reads {α : Type} (x : Reader α) (w : List UInt8) (v : α) (after : List UInt8 → Prop)
    (depth : Nat) : Prop :=
  ∀ c : Cursor, ∀ rest : List UInt8, c.rest = w ++ rest → after rest → depth < c.levels →
    x.go c = (.ok v, c.advance w.length)

namespace Reads

variable {α β : Type} {x : Reader α} {w w' : List UInt8} {v : α} {after after' : List UInt8 → Prop}
  {d d' : Nat}

theorem pure (v : α) : Reads (Pure.pure v : Reader α) [] v after d :=
  fun _ _ _ _ _ => rfl

theorem mono (h : Reads x w v after d) (hafter : ∀ r, after' r → after r) (hd : d ≤ d') :
    Reads x w v after' d' :=
  fun c rest hrest ha hlev => h c rest hrest (hafter rest ha) (by omega)

theorem of_eq {w₀ : List UInt8} (h : Reads x w₀ v after d) (hw : w₀ = w) : Reads x w v after d :=
  hw ▸ h

/-- **Reading one part after another.**  What follows the first part is the second part
and what follows it. -/
theorem bind {f : α → Reader β} {u : β} {af : List UInt8 → Prop}
    (hx : Reads x w v after d) (hf : Reads (f v) w' u af d)
    (hafter : ∀ r, af r → after (w' ++ r)) : Reads (x >>= f) (w ++ w') u af d := by
  intro c rest hrest ha hlev
  have first := hx c (w' ++ rest) (by rw [hrest, List.append_assoc]) (hafter rest ha) hlev
  have second := hf (c.advance w.length) rest (Cursor.rest_advance (by rw [hrest, List.append_assoc]))
    ha (by simpa using hlev)
  rw [go_bind, first]
  simp only
  rw [second, Cursor.advance_advance, List.length_append]

theorem map (g : α → β) (h : Reads x w v after d) : Reads (g <$> x) w (g v) after d := by
  intro c rest hrest ha hlev
  rw [go_map, h c rest hrest ha hlev]

theorem attempt (h : Reads x w v after d) : Reads (Json.attempt x) w (.ok v) after d := by
  intro c rest hrest ha hlev
  simp [Json.attempt, h c rest hrest ha hlev]

/-- A shape reader that succeeds is read as it is. -/
theorem placing (h : Reads x w v after d) : Reads (Json.placing x) w v after d := by
  intro c rest hrest ha hlev
  simp [Json.placing, h.attempt c rest hrest ha hlev]

/-- A value read and then put into a larger one. -/
theorem bind_pure (g : α → β) (h : Reads x w v after d) :
    Reads (x >>= fun a => Pure.pure (g a)) w (g v) after d :=
  (h.bind (Reads.pure (g v)) (fun _ ha => ha)).of_eq (List.append_nil w)

end Reads

/-! ## Bytes and brackets -/

section Brackets

variable {α : Type} {c : Cursor} {b : UInt8} {rest : List UInt8} {d : Nat}

theorem reads_bump (b : UInt8) : Reads bump [b] () (fun _ => True) 0 := by
  intro c rest _ _ _
  rfl

/-- White space is skipped up to the next byte, which is looked at and left. -/
theorem reads_skipSpace (hb : isSpaceByte b = false) :
    Reads skipSpace [] (some b) (fun r => r.head? = some b) 0 := by
  intro c rest hrest ha _
  obtain ⟨r, rfl⟩ : ∃ r, rest = b :: r := by
    cases rest with
    | nil => cases ha
    | cons b' r => exact ⟨r, by simp_all⟩
  exact go_skipSpace_cons hrest hb

theorem reads_valueStart (hb : isSpaceByte b = false) :
    Reads valueStart [] b (fun r => r.head? = some b) 0 := by
  intro c rest hrest ha hlev
  have h := reads_skipSpace hb c rest hrest ha hlev
  simp [valueStart, h]

theorem rest_of_head {w rest : List UInt8} (hrest : c.rest = w ++ rest) (ha : rest.head? = some b) :
    ∃ r, c.rest = w ++ b :: r := by
  cases rest with
  | nil => cases ha
  | cons b' r =>
      obtain rfl : b' = b := by simpa using ha
      exact ⟨r, hrest⟩

/-- **Reading inside a bracket.**  The bracket is consumed and spends a level, the
inside is read with one level fewer, and the closing bracket is read with the level
given back. -/
theorem reads_nested {inside : Reader α} {close : Reader Unit} {w wc : List UInt8} {v : α}
    {ain after : List UInt8 → Prop} (b : UInt8)
    (hin : Reads inside w v ain d) (hclose : Reads close wc () after 0)
    (hafter : ∀ r, after r → ain (wc ++ r)) :
    Reads (nested inside close) (b :: (w ++ wc)) v after (d + 1) := by
  intro c rest hrest ha hlev
  have hnot : ¬ c.levels ≤ 1 := by omega
  -- inside the bracket one level fewer is left
  have hrest₁ : (({ c with levels := c.levels - 1 } : Cursor).advance 1).rest =
      w ++ (wc ++ rest) := by
    have hinner : ({ c with levels := c.levels - 1 } : Cursor).rest = b :: (w ++ (wc ++ rest)) := by
      simpa [Cursor.rest] using hrest
    exact Cursor.rest_advance_one hinner
  have hinside := hin.attempt _ _ hrest₁ (hafter rest ha) (by simp; omega)
  -- after the inside, the level is given back before the closing bracket is read
  have hrest₂ : (⟨((({ c with levels := c.levels - 1 } : Cursor).advance 1).advance w.length).bytes,
      ((({ c with levels := c.levels - 1 } : Cursor).advance 1).advance w.length).offset,
      ((({ c with levels := c.levels - 1 } : Cursor).advance 1).advance w.length).levels + 1⟩ :
        Cursor).rest = wc ++ rest :=
    Cursor.rest_advance hrest₁
  have hclosed := hclose.attempt _ _ hrest₂ ha (by simp)
  simp only [nested, go_bind, go_get, hnot, if_false, go_set, go_bump, hinside, go_modify,
    hclosed]
  have hlevels : c.levels - 1 + 1 = c.levels := by omega
  cases c
  simp only [Cursor.advance, List.length_cons, List.length_append]
  simp only [go_pure, Prod.mk.injEq, Cursor.mk.injEq, true_and]
  exact ⟨by omega, hlevels⟩

theorem reads_closeList : Reads closeList [93] () (fun _ => True) 0 := by
  intro c rest hrest _ _
  simp [closeList, go_skipSpace_cons hrest rfl, code]

theorem reads_closeObject : Reads closeObject [125] () (fun _ => True) 0 := by
  intro c rest hrest _ _
  simp [closeObject, go_skipSpace_cons hrest rfl, code]

theorem reads_readColon : Reads readColon [58] () (fun _ => True) 0 := by
  intro c rest hrest _ _
  simp [readColon, go_skipSpace_cons hrest rfl, code]

/-- A list ends at its closing bracket, which is left for `closeList`. -/
theorem reads_hasNextItem_end (first : Bool) :
    Reads (hasNextItem first) [] false (fun r => r.head? = some 93) 0 := by
  intro c rest hrest ha _
  obtain ⟨r, hr⟩ := rest_of_head hrest ha
  simp [hasNextItem, go_skipSpace_cons hr rfl, code]

/-- The first item of a list starts at once. -/
theorem reads_hasNextItem_first (hb : isSpaceByte b = false) (hend : b ≠ 93) :
    Reads (hasNextItem true) [] true (fun r => r.head? = some b) 0 := by
  intro c rest hrest ha _
  obtain ⟨r, hr⟩ := rest_of_head hrest ha
  simp [hasNextItem, go_skipSpace_cons hr hb, code, hend]

/-- A later item of a list follows a comma. -/
theorem reads_hasNextItem_next (hb : isSpaceByte b = false) (hend : b ≠ 93) :
    Reads (hasNextItem false) [44] true (fun r => r.head? = some b) 0 := by
  intro c rest hrest ha _
  obtain ⟨r, hr⟩ := rest_of_head hrest ha
  have hr₁ := Cursor.rest_advance_one hr
  simp [hasNextItem, go_skipSpace_cons hr rfl, go_skipSpace_cons hr₁ hb, code, hend]

/-- An object ends at its closing brace, which is left for `closeObject`. -/
theorem reads_hasNextKey_end (first : Bool) :
    Reads (hasNextKey first) [] false (fun r => r.head? = some 125) 0 := by
  intro c rest hrest ha _
  obtain ⟨r, hr⟩ := rest_of_head hrest ha
  simp [hasNextKey, go_skipSpace_cons hr rfl, code]

/-- The first key of an object starts at once, at its quote. -/
theorem reads_hasNextKey_first :
    Reads (hasNextKey true) [] true (fun r => r.head? = some 34) 0 := by
  intro c rest hrest ha _
  obtain ⟨r, hr⟩ := rest_of_head hrest ha
  simp [hasNextKey, go_skipSpace_cons hr rfl, code]

/-- A later key of an object follows a comma. -/
theorem reads_hasNextKey_next :
    Reads (hasNextKey false) [44] true (fun r => r.head? = some 34) 0 := by
  intro c rest hrest ha _
  obtain ⟨r, hr⟩ := rest_of_head hrest ha
  have hr₁ := Cursor.rest_advance_one hr
  simp [hasNextKey, go_skipSpace_cons hr rfl, go_skipSpace_cons hr₁ rfl, code]

/-- A value other than `null` is read by the inner reader as present. -/
theorem reads_readOptional {inner : Reader α} {w : List UInt8} {v : α}
    {after : List UInt8 → Prop} (h : Reads inner (b :: w) v after d)
    (hb : isSpaceByte b = false) (hnull : b ≠ 110) :
    Reads (readOptional inner) (b :: w) (some v) after d := by
  intro c rest hrest ha hlev
  simp [readOptional, go_skipSpace_cons hrest hb, code, hnull, h c rest hrest ha hlev]

theorem go_expectEnd (h : c.rest = []) : expectEnd.go c = (.ok (), c) := by
  simp [expectEnd, go_skipSpace_nil h]

/-- **A reader that reads a whole text reads it to its end**: run over the text, it gives
its value and finds nothing left. -/
theorem Reads.runText {x : Reader α} {s : String} {v : α} (h : Reads x (Text.encode s) v (fun _ => True) d)
    (hd : d < 128) : x.runText s = .ok v := by
  have hstart : (Cursor.start s).rest = Text.encode s ++ [] := by
    simp [Cursor.rest, Cursor.start, Text.encode]
  have hread := h (Cursor.start s) [] hstart trivial hd
  have hend := go_expectEnd (Cursor.rest_advance hstart)
  show ((do let v ← x; expectEnd; Pure.pure v : Reader α).go (Cursor.start s)).1 = _
  simp [hread, hend]

end Brackets

end BuildWorker.Json
