import Mathlib
import BuildWorker.Proofs.Json.Scalars
/-!
# Reading written lists and records back

Compact JSON writes the items of a list, and the entries of an object, one after
another with a comma before each but the first (`joinedBytes`).  The loops that read
them take one round per item and stop at the closing bracket, which the enclosing
`nested` reads; their bound comes from the bytes left, and every item takes at least one
byte, so the bound is never reached first.

* `reads_readList`: a list of items, each read back by the item reader, reads back as
  the list of them.
* `reads_readAny_string`, `reads_readAny_strings`: a string, and a list of strings,
  read back as values of any shape.
* `reads_readRecord`: an object whose entries are each read by the field rule of their
  key, keys distinct and every required field present, reads back as the draft the
  entries' reads build, one after another from the empty one.  A field written is
  described by a `FieldWrite`: its key, its value, and what reading the value does to a
  draft.
-/

set_option autoImplicit false

namespace BuildWorker.Json

open Text

/-- Items as written: a comma before each but the first, when `first`. -/
def joinedBytes : Bool → List (List UInt8) → List UInt8
  | _, [] => []
  | first, w :: ws => (if first then w else 44 :: w) ++ joinedBytes false ws

theorem joinedBytes_false (ws : List (List UInt8)) :
    joinedBytes false ws = ws.flatMap (44 :: ·) := by
  induction ws with
  | nil => rfl
  | cons w ws ih => simp [joinedBytes, ih]

theorem encode_intercalate (l : List String) :
    encode (",".intercalate l) = joinedBytes true (l.map encode) := by
  induction l with
  | nil => simp [encode_eq_flatMap, joinedBytes]
  | cons t l ih =>
      cases l with
      | nil => simp [joinedBytes]
      | cons u l =>
          have hcomma : encode "," = [44] := by simp [encode_eq_flatMap, String.utf8EncodeChar]
          rw [String.intercalate_cons_cons, encode_append, encode_append, ih, hcomma]
          simp [joinedBytes, joinedBytes_false]

/-- Every item takes at least one byte, so there are no more items than bytes. -/
theorem length_le_joinedBytes (first : Bool) (ws : List (List UInt8)) (hws : ∀ w ∈ ws, w ≠ []) :
    ws.length ≤ (joinedBytes first ws).length := by
  induction ws generalizing first with
  | nil => simp
  | cons w ws ih =>
      have hw := List.length_pos_iff.2 (hws w List.mem_cons_self)
      have := ih false fun w hw => hws w (List.mem_cons_of_mem _ hw)
      cases first <;> simp [joinedBytes] <;> omega

/-- The rounds a loop takes from the bytes left cover one round for each item ahead. -/
theorem steps_cover_joined {c : Cursor} {first : Bool} {ws : List (List UInt8)} {post : List UInt8}
    (hws : ∀ w ∈ ws, w ≠ []) (h : c.rest = joinedBytes first ws ++ post) :
    c.rest.length + 2 = ws.length + (c.rest.length + 2 - ws.length) := by
  have := length_le_joinedBytes first ws hws
  rw [h, List.length_append]
  omega

theorem render_renderItems (items : List Value) :
    Value.render.renderItems items = items.map Value.render := by
  induction items with
  | nil => rfl
  | cons v items ih => simp [Value.render.renderItems, ih]

theorem render_renderEntries (entries : List (String × Value)) :
    Value.render.renderEntries entries =
      entries.map fun e => renderString e.1 ++ ":" ++ e.2.render := by
  induction entries with
  | nil => rfl
  | cons e entries ih => simp [Value.render.renderEntries, ih]

theorem encode_render_array (items : List Value) :
    encode (Value.array items).render =
      91 :: (joinedBytes true (items.map fun v => encode v.render) ++ [93]) := by
  have hopen : encode "[" = [91] := by simp [encode_eq_flatMap, String.utf8EncodeChar]
  have hclose : encode "]" = [93] := by simp [encode_eq_flatMap, String.utf8EncodeChar]
  rw [Value.render, render_renderItems, encode_append, encode_append, encode_intercalate,
    hopen, hclose, List.map_map]
  rfl

/-- The bytes of an object's entry: its key, a colon, its value. -/
def entryBytes (e : String × Value) : List UInt8 :=
  encode (renderString e.1) ++ 58 :: encode e.2.render

theorem encode_render_object (entries : List (String × Value)) :
    encode (Value.object entries).render =
      123 :: (joinedBytes true (entries.map entryBytes) ++ [125]) := by
  have hopen : encode "\x7b" = [123] := by simp [encode_eq_flatMap, String.utf8EncodeChar]
  have hclose : encode "\x7d" = [125] := by simp [encode_eq_flatMap, String.utf8EncodeChar]
  have hcolon : encode ":" = [58] := by simp [encode_eq_flatMap, String.utf8EncodeChar]
  have hentry : (encode ∘ fun e : String × Value => renderString e.1 ++ ":" ++ e.2.render) =
      entryBytes := by
    funext e
    simp only [Function.comp_apply, encode_append, hcolon, entryBytes]
    simp
  rw [Value.render, render_renderEntries, encode_append, encode_append, encode_intercalate,
    hopen, hclose, List.map_map, hentry]
  rfl

/-! ## Lists -/

section Lists

variable {α : Type} {r : List UInt8} {d : Nat}

/-- What an item reader needs of a written item: it reads the item's bytes as the item,
and the bytes start with neither white space nor a closing bracket. -/
def ItemRead (item : Reader α) (d : Nat) (p : List UInt8 × α) : Prop :=
  Reads item p.1 p.2 (fun _ => True) d ∧ ∃ b w, p.1 = b :: w ∧ isSpaceByte b = false ∧ b ≠ 93

/-- Whether another item follows is read off the comma before it, or off the item's first
byte for the first item. -/
theorem go_hasNextItem_more {first : Bool} {cur : Cursor} {b : UInt8} {w rest : List UInt8}
    (h : cur.rest = (if first then [] else [44]) ++ (b :: w ++ rest))
    (hsp : isSpaceByte b = false) (h93 : b ≠ 93) (hlev : 0 < cur.levels) :
    (hasNextItem first).go cur =
      (.ok true, cur.advance (if first then [] else [44] : List UInt8).length) := by
  cases first
  · exact reads_hasNextItem_next hsp h93 cur (b :: w ++ rest) h (by simp) hlev
  · exact reads_hasNextItem_first hsp h93 cur (b :: w ++ rest) h (by simp) hlev

theorem joinedBytes_cons (first : Bool) (w : List UInt8) (ws : List (List UInt8)) :
    joinedBytes first (w :: ws) = (if first then [] else [44]) ++ w ++ joinedBytes false ws := by
  cases first <;> simp [joinedBytes]

/-- **The items of a list are read one round each**, up to the closing bracket. -/
theorem go_readListItemsFor {item : Reader α} (ws : List (List UInt8 × α))
    (hws : ∀ p ∈ ws, ItemRead item d p) (first : Bool) (m : Nat) (acc : List α) (cur : Cursor)
    (h : cur.rest = joinedBytes first (ws.map Prod.fst) ++ 93 :: r) (hlev : d < cur.levels) :
    (readListItemsFor item (ws.length + m) first acc).go cur =
      (.ok (acc.reverse ++ ws.map Prod.snd),
        cur.advance (joinedBytes first (ws.map Prod.fst)).length) := by
  induction ws generalizing first acc cur with
  | nil =>
      have hend := reads_hasNextItem_end first cur (93 :: r) (by simpa [joinedBytes] using h) rfl
        (by omega)
      cases m with
      | zero => simp [readListItemsFor, joinedBytes]
      | succ m => simp [readListItemsFor, hend, joinedBytes]
  | cons p ws ih =>
      obtain ⟨hread, b, w, hp, hsp, h93⟩ := hws p List.mem_cons_self
      simp only [List.map_cons, joinedBytes_cons] at h ⊢
      -- the comma, if any; then the item; then the items after it
      have h₀ : cur.rest = (if first then [] else [44]) ++
          (p.1 ++ (joinedBytes false (ws.map Prod.fst) ++ 93 :: r)) := by
        simpa [List.append_assoc] using h
      have hmore := go_hasNextItem_more (h₀.trans (by rw [hp])) hsp h93 (by omega)
      have h₁ := Cursor.rest_advance h₀
      have hitem := hread _ _ h₁ trivial (by simpa using hlev)
      have h₂ := Cursor.rest_advance h₁
      rw [List.length_cons, show ws.length + 1 + m = (ws.length + m) + 1 by omega]
      simp only [readListItemsFor, go_bind, hmore, if_true, hitem]
      rw [ih (fun q hq => hws q (List.mem_cons_of_mem _ hq)) false (p.2 :: acc) _ h₂
        (by simpa using hlev), Cursor.advance_advance, Cursor.advance_advance]
      simp

/-- **A written list reads back as its items**, each read by the item reader. -/
theorem reads_readList {item : Reader α} (ws : List (List UInt8 × α))
    (hws : ∀ p ∈ ws, ItemRead item d p) :
    Reads (readList item) (91 :: (joinedBytes true (ws.map Prod.fst) ++ [93])) (ws.map Prod.snd)
      (fun _ => True) (d + 1) := by
  apply Reads.placing
  have hinside : Reads (do readListItemsFor item (← stepsLeft) true [])
      (joinedBytes true (ws.map Prod.fst)) (ws.map Prod.snd) (fun r => r.head? = some 93) d := by
    intro cur rest hrest ha hlev
    obtain ⟨r, hr⟩ := rest_of_head hrest ha
    have hfuel := steps_cover_joined (by
      intro w hw
      obtain ⟨p, hp, rfl⟩ := List.mem_map.1 hw
      obtain ⟨-, b, w, hpw, -⟩ := hws p hp
      simp [hpw]) hr
    rw [List.length_map] at hfuel
    simp only [go_bind, go_stepsLeft]
    rw [hfuel, go_readListItemsFor ws hws true _ [] cur hr hlev]
    simp
  refine ((reads_valueStart (b := 91) rfl).mono (fun _ h => h) (Nat.zero_le _)).bind ?_
    (fun _ _ => rfl)
  simpa [code] using reads_nested 91 hinside reads_closeList (fun _ _ => rfl)

end Lists

/-! ## Values of any shape -/

section Any

variable {r : List UInt8}

/-- A string is read as a value of any shape, with a round to spare. -/
theorem reads_readAnyFor_string (n : Nat) (s : String) :
    Reads (readAnyFor (n + 1)) (encode (renderString s)) (.string s) (fun _ => True) 0 := by
  rw [readAnyFor]
  apply Reads.placing
  intro cur rest hrest _ hlev
  rw [encode_renderString] at hrest ⊢
  have hbody := reads_readStringBody s (cur.advance 1) rest
    (Cursor.rest_advance_one (by simpa using hrest)) trivial (by simpa using hlev)
  have h34 : isDigit 34 = false := by decide
  simp [go_skipSpace_cons hrest rfl, code, h34, hbody, Cursor.advance_advance, Nat.add_comm]

/-- The strings of a list are read as values one round each, up to the closing bracket. -/
theorem go_readItemsFor_strings (ss : List String) (first : Bool) (m : Nat) (acc : List Value)
    (cur : Cursor) (h : cur.rest = joinedBytes first (ss.map fun s => encode (renderString s)) ++ 93 :: r)
    (hlev : 0 < cur.levels) :
    (readItemsFor (ss.length + m + 1) first acc).go cur =
      (.ok (acc.reverse ++ ss.map Value.string),
        cur.advance (joinedBytes first (ss.map fun s => encode (renderString s))).length) := by
  induction ss generalizing first acc cur with
  | nil =>
      have hend := reads_hasNextItem_end first cur (93 :: r) (by simpa [joinedBytes] using h) rfl hlev
      simp [readItemsFor, hend, joinedBytes]
  | cons s ss ih =>
      simp only [List.map_cons, joinedBytes_cons] at h ⊢
      have h₀ : cur.rest = (if first then [] else [44]) ++
          (encode (renderString s) ++
            (joinedBytes false (ss.map fun s => encode (renderString s)) ++ 93 :: r)) := by
        simpa [List.append_assoc] using h
      have hmore := go_hasNextItem_more (h₀.trans (by rw [encode_renderString])) rfl
        (by decide) hlev
      have h₁ := Cursor.rest_advance h₀
      have hitem := reads_readAnyFor_string (ss.length + m) s _ _ h₁ trivial (by simpa using hlev)
      have h₂ := Cursor.rest_advance h₁
      rw [List.length_cons, show ss.length + 1 + m + 1 = (ss.length + m + 1) + 1 by omega,
        readItemsFor.eq_2]
      simp only [go_bind, hmore, if_true, hitem]
      rw [ih false (Value.string s :: acc) _ h₂ (by simpa using hlev), Cursor.advance_advance,
        Cursor.advance_advance]
      simp

theorem encode_render_strings (ss : List String) :
    encode (Value.array (ss.map Value.string)).render =
      91 :: (joinedBytes true (ss.map fun s => encode (renderString s)) ++ [93]) := by
  rw [encode_render_array, List.map_map]
  rfl

/-- A list of strings is read as a value of any shape, given a round for each string and
two to spare. -/
theorem reads_readAnyFor_strings (ss : List String) (n : Nat) (hn : ss.length ≤ n) :
    Reads (readAnyFor (n + 2)) (encode (Value.array (ss.map Value.string)).render)
      (.array (ss.map Value.string)) (fun _ => True) 1 := by
  have hinside : Reads (readItemsFor (n + 1) true [])
      (joinedBytes true (ss.map fun s => encode (renderString s))) (ss.map Value.string)
      (fun r => r.head? = some 93) 0 := by
    intro cur rest hrest ha hlev
    obtain ⟨r, hr⟩ := rest_of_head hrest ha
    rw [show n + 1 = ss.length + (n - ss.length) + 1 by omega,
      go_readItemsFor_strings ss true _ [] cur hr hlev]
    simp
  have hlist := reads_nested 91 hinside reads_closeList (fun _ _ => rfl)
  rw [readAnyFor]
  apply Reads.placing
  intro cur rest hrest _ hlev
  rw [encode_render_strings] at hrest ⊢
  have h91 : isDigit 91 = false := by decide
  simp [go_skipSpace_cons hrest rfl, code, h91, hlist cur rest hrest trivial hlev]

/-- A string is read as a value of any shape. -/
theorem reads_readAny_string (s : String) :
    Reads readAny (encode (renderString s)) (.string s) (fun _ => True) 0 := by
  intro cur rest hrest ha hlev
  simp only [readAny, go_bind, go_stepsLeft]
  exact reads_readAnyFor_string _ s cur rest hrest ha hlev

/-- A list of strings is read as a value of any shape. -/
theorem reads_readAny_strings (ss : List String) :
    Reads readAny (encode (Value.array (ss.map Value.string)).render)
      (.array (ss.map Value.string)) (fun _ => True) 1 := by
  intro cur rest hrest ha hlev
  -- each string takes at least a byte, so the bytes left bound the rounds
  have hbound : ss.length ≤ cur.rest.length := by
    have := length_le_joinedBytes true (ss.map fun s => encode (renderString s)) (by
      intro w hw
      obtain ⟨s, -, rfl⟩ := List.mem_map.1 hw
      simp [encode_renderString])
    rw [hrest, encode_render_strings]
    simp only [List.length_map] at this
    simp
    omega
  simp only [readAny, go_bind, go_stepsLeft]
  exact reads_readAnyFor_strings ss _ hbound cur rest hrest ha hlev

end Any

/-! ## Records -/

/-- A field of a record as written: its key, its value, and what reading the value does
to a draft of the record. -/
structure FieldWrite (δ : Type) where
  key : String
  value : Value
  update : δ → δ

/-- A value inside an object is followed by a comma or by the closing brace. -/
def EntryEnds (r : List UInt8) : Prop := r.head? = some 44 ∨ r.head? = some 125

namespace FieldWrite

variable {δ : Type}

/-- The entry of the object the field is written as. -/
def entry (w : FieldWrite δ) : String × Value := (w.key, w.value)

/-- The field is read by the rule of its key: from any draft, the rule reads the value
as the field's update of the draft. -/
def ReadBy (fields : List (FieldRule δ)) (d : Nat) (w : FieldWrite δ) : Prop :=
  ∃ f, fields.find? (·.name == w.key) = some f ∧
    ∀ draft, Reads (f.read draft) (encode w.value.render) (w.update draft) EntryEnds d

end FieldWrite

section Records

variable {δ : Type} {fields : List (FieldRule δ)} {r : List UInt8} {d : Nat}

theorem entryEnds_joinedBytes (ws : List (List UInt8)) :
    EntryEnds (joinedBytes false ws ++ 125 :: r) := by
  cases ws with
  | nil => simp [EntryEnds, joinedBytes]
  | cons w ws => simp [EntryEnds, joinedBytes]

/-- Whether another entry follows is read off the comma before its key, or off the key's
quote for the first entry. -/
theorem go_hasNextKey_more {first : Bool} {cur : Cursor} {rest : List UInt8}
    (h : cur.rest = (if first then [] else [44]) ++ rest) (hq : rest.head? = some 34)
    (hlev : 0 < cur.levels) :
    (hasNextKey first).go cur =
      (.ok true, cur.advance (if first then [] else [44] : List UInt8).length) := by
  cases first
  · exact reads_hasNextKey_next cur rest h hq hlev
  · exact reads_hasNextKey_first cur rest h hq hlev

/-- **The entries of an object are read one round each**, up to the closing brace: each
by the rule of its key, into the draft, and its key noted as seen. -/
theorem go_readFieldsFor (ws : List (FieldWrite δ)) (hws : ∀ w ∈ ws, w.ReadBy fields d)
    (hkeys : (ws.map FieldWrite.key).Nodup) (first : Bool) (m : Nat) (seen : List String)
    (hseen : ∀ w ∈ ws, w.key ∉ seen) (draft : δ) (cur : Cursor)
    (h : cur.rest = joinedBytes first ((ws.map FieldWrite.entry).map entryBytes) ++ 125 :: r)
    (hlev : d < cur.levels) :
    (readFieldsFor fields (ws.length + m) first seen draft).go cur =
      (.ok (ws.foldl (fun draft w => w.update draft) draft, (ws.map FieldWrite.key).reverse ++ seen),
        cur.advance (joinedBytes first ((ws.map FieldWrite.entry).map entryBytes)).length) := by
  induction ws generalizing first seen draft cur with
  | nil =>
      have hend := reads_hasNextKey_end first cur (125 :: r) (by simpa [joinedBytes] using h) rfl
        (by omega)
      cases m with
      | zero => simp [readFieldsFor, joinedBytes]
      | succ m => simp [readFieldsFor, hend, joinedBytes]
  | cons w ws ih =>
      obtain ⟨f, hfind, hread⟩ := hws w List.mem_cons_self
      have hnew : w.key ∉ seen := hseen w List.mem_cons_self
      obtain ⟨hfresh, hkeys'⟩ := List.nodup_cons.1 hkeys
      simp only [List.map_cons, joinedBytes_cons, entryBytes, FieldWrite.entry] at h ⊢
      -- the comma, if any; the key; the colon; the value; then the entries after it
      have h₀ : cur.rest = (if first then [] else [44]) ++ (encode (renderString w.key) ++
          (58 :: (encode w.value.render ++
            (joinedBytes false ((ws.map FieldWrite.entry).map entryBytes) ++ 125 :: r)))) := by
        simpa [List.append_assoc] using h
      have hmore := go_hasNextKey_more h₀ (by simp [encode_renderString]) (by omega)
      have h₁ := Cursor.rest_advance h₀
      have hkey := reads_readKey w.key _ _ h₁ trivial (by simp; omega)
      have h₂ := Cursor.rest_advance h₁
      have hcolon := reads_readColon _ _ h₂ trivial (by simp; omega)
      have h₃ := Cursor.rest_advance (w := [58]) h₂
      have hvalue := hread draft _ _ h₃ (entryEnds_joinedBytes _) (by simpa using hlev)
      have h₄ := Cursor.rest_advance h₃
      have hcontains : seen.contains w.key = false := by simpa using hnew
      rw [List.length_cons, show ws.length + 1 + m = (ws.length + m) + 1 by omega,
        readFieldsFor.eq_2]
      simp only [go_bind, hmore, if_true, hkey, hfind, hcontains, Bool.false_eq_true, if_false,
        hcolon, hvalue]
      rw [ih (fun w hw => hws w (List.mem_cons_of_mem _ hw)) hkeys' false (w.key :: seen)
        (fun v hv => by
          simp only [List.mem_cons, not_or]
          exact ⟨fun e => hfresh (e ▸ List.mem_map_of_mem hv), hseen v (List.mem_cons_of_mem _ hv)⟩)
        _ _ h₄ (by simpa using hlev)]
      simp only [Cursor.advance_advance, List.foldl_cons, List.reverse_cons, List.append_assoc,
        List.singleton_append, List.length_append, List.length_cons, List.length_nil]
      congr 2
      omega

/-- **A written record reads back as the draft its entries build**, one after another
from the empty draft: each entry is read by the rule of its key, the keys are distinct,
and every required field is there. -/
theorem reads_readRecord (name : String) (empty : δ) (ws : List (FieldWrite δ))
    (hws : ∀ w ∈ ws, w.ReadBy fields d) (hkeys : (ws.map FieldWrite.key).Nodup)
    (hrequired : ∀ f ∈ fields, f.required = true → f.name ∈ ws.map FieldWrite.key) :
    Reads (readRecord name fields empty) (encode (Value.object (ws.map FieldWrite.entry)).render)
      (ws.foldl (fun draft w => w.update draft) empty) (fun _ => True) (d + 1) := by
  rw [encode_render_object]
  unfold readRecord
  apply Reads.placing
  refine ((reads_valueStart (b := 123) rfl).mono (fun _ h => h) (Nat.zero_le _)).bind ?_
    (fun _ _ => rfl)
  show Reads (nested _ closeObject) _ _ _ _
  refine reads_nested 123 (?_ : Reads _ _ _ (fun r => r.head? = some 125) d) reads_closeObject
    (fun _ _ => rfl)
  -- inside the braces: the entries, then the check that no required field is missing
  intro cur rest hrest ha hlev
  obtain ⟨r, hr⟩ := rest_of_head hrest ha
  have hfuel := steps_cover_joined (by
    intro e he
    obtain ⟨v, -, rfl⟩ := List.mem_map.1 he
    simp [entryBytes, encode_renderString]) hr
  rw [List.length_map, List.length_map] at hfuel
  have hnone : fields.find? (fun f => f.required && !((ws.map FieldWrite.key).reverse ++ []).contains f.name) = none := by
    rw [List.find?_eq_none]
    intro f hf
    by_cases hreq : f.required = true
    · simp [hreq, hrequired f hf hreq]
    · simp [hreq]
  simp only [go_bind, go_stepsLeft]
  rw [hfuel, go_readFieldsFor ws hws hkeys true _ [] (by simp) empty cur hr hlev]
  simp only [hnone]
  rfl

end Records

end BuildWorker.Json
