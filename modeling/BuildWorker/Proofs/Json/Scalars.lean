import Mathlib
import BuildWorker.Proofs.Json.Reading
/-!
# Reading written strings and numbers back

A string is written between quotes with each character as itself or as an escape
(`escapeChar`); the reader takes the bytes between the quotes one round at a time,
turning each escape back into its character's bytes.  `reads_readString` says that a
written string reads back as itself.  The loop's bound comes from the bytes left, so
the proof counts rounds: a character written as itself takes one round per byte and an
escape one round (`escapeSteps`), never more rounds than bytes.  What the rounds
collect are the text's UTF-8 bytes, which decode to the text (`decodeLossy_encode`).

An unsigned number is written in decimal (`toString`), and `reads_readUnsigned` reads
it back as long as it is within the bound asked for, with the byte after it unable to
continue a number (`NumberEnds`).  The digits are collected left to right
(`pushDigit`), and below the 64-bit bound no step overflows.
-/

set_option autoImplicit false

namespace BuildWorker.Json

open Text

/-- Bytes of an ASCII text are its characters' codes. -/
theorem encode_ofList_ascii (cs : List Char) (h : ∀ c ∈ cs, c.toNat < 128) :
    encode (String.ofList cs) = cs.map fun c => UInt8.ofNat c.toNat := by
  rw [encode_ofList]
  induction cs with
  | nil => rfl
  | cons c cs ih =>
      rw [List.flatMap_cons, utf8EncodeChar_ascii (h c List.mem_cons_self),
        ih fun c hc => h c (List.mem_cons_of_mem _ hc)]
      rfl

theorem encode_singleton (c : Char) : encode (String.singleton c) = String.utf8EncodeChar c := by
  simp [encode_eq_flatMap]

theorem encode_join (l : List String) : encode (String.join l) = l.flatMap encode := by
  induction l with
  | nil => simp [encode_eq_flatMap]
  | cons s l ih => rw [String.join_cons, encode_append, ih, List.flatMap_cons]

/-! ## Strings -/

/-- A character written as itself: neither a quote, a backslash nor a control
character. -/
def IsPlainChar (c : Char) : Prop := c ≠ '"' ∧ c ≠ '\\' ∧ 0x20 ≤ c.toNat

instance : DecidablePred IsPlainChar := fun _ => inferInstanceAs (Decidable (_ ∧ _ ∧ _))

/-- The rounds of the string loop a character takes: one per byte when it is written
as itself, one for an escape. -/
def escapeSteps (c : Char) : Nat :=
  if IsPlainChar c then (String.utf8EncodeChar c).length else 1

/-- The bytes written for characters between a string's quotes. -/
def escapedBytes (cs : List Char) : List UInt8 := cs.flatMap fun c => encode (escapeChar c)

theorem escapeChar_plain {c : Char} (h : IsPlainChar c) : escapeChar c = String.singleton c := by
  obtain ⟨hq, hb, hlo⟩ := h
  unfold escapeChar
  split
  · exact absurd rfl hq
  · exact absurd rfl hb
  all_goals try (simp at hlo)
  have h8 : c.toNat ≠ 8 := by omega
  have h12 : c.toNat ≠ 12 := by omega
  have hlt : ¬ c.toNat < 0x20 := by omega
  simp [h8, h12, hlt]

/-- The bytes of a plain character stop no string: none is a quote, a backslash or a
control byte. -/
theorem plain_bytes {c : Char} (h : IsPlainChar c) :
    ∀ b ∈ String.utf8EncodeChar c, 32 ≤ b.toNat ∧ b.toNat ≠ 34 ∧ b.toNat ≠ 92 := by
  obtain ⟨hq, hb, hlo⟩ := h
  have hq' : c.toNat ≠ 34 := fun e => hq (Char.toNat_inj.1 e)
  have hb' : c.toNat ≠ 92 := fun e => hb (Char.toNat_inj.1 e)
  have hval : c.toNat = c.val.toNat := rfl
  unfold String.utf8EncodeChar
  dsimp only
  split_ifs <;> simp only [List.mem_cons, List.not_mem_nil, or_false, forall_eq_or_imp,
    forall_eq, UInt8.toNat_ofNat', Nat.reducePow] <;> omega

theorem escapeSteps_le (c : Char) : escapeSteps c ≤ (encode (escapeChar c)).length := by
  by_cases hp : IsPlainChar c
  · rw [escapeSteps, if_pos hp, escapeChar_plain hp, encode_singleton]
  · rw [escapeSteps, if_neg hp]
    unfold escapeChar
    split
    all_goals try (simp [encode_eq_flatMap, String.utf8EncodeChar]; done)
    split_ifs
    all_goals try (simp [encode_eq_flatMap, String.utf8EncodeChar]; done)
    rw [encode_singleton, String.length_utf8EncodeChar]
    exact Char.utf8Size_pos c

theorem escapedBytes_steps (cs : List Char) :
    (cs.map escapeSteps).sum ≤ (escapedBytes cs).length := by
  induction cs with
  | nil => simp [escapedBytes]
  | cons c cs ih =>
      simp only [escapedBytes, List.map_cons, List.sum_cons, List.flatMap_cons,
        List.length_append] at ih ⊢
      have := escapeSteps_le c
      omega

theorem encode_renderString (s : String) :
    encode (renderString s) = 34 :: (escapedBytes s.toList ++ [34]) := by
  have hquote : encode "\"" = [34] := by simp [encode_eq_flatMap, String.utf8EncodeChar]
  rw [renderString, encode_append, encode_append, encode_join, hquote, escapedBytes,
    List.flatMap_map]
  rfl

section Loop

variable {r : List UInt8}

/-- Plain bytes are taken into the string one round each. -/
theorem go_readStringFor_plain (bs : List UInt8)
    (hbs : ∀ b ∈ bs, 32 ≤ b.toNat ∧ b.toNat ≠ 34 ∧ b.toNat ≠ 92) (n : Nat) (acc : Array UInt8)
    (cur : Cursor) (h : cur.rest = bs ++ r) :
    (readStringFor (bs.length + n) acc).go cur =
      (readStringFor n (acc ++ bs.toArray)).go (cur.advance bs.length) := by
  induction bs generalizing acc cur with
  | nil => simp
  | cons b bs ih =>
      obtain ⟨hlo, hq, hb⟩ := hbs b List.mem_cons_self
      have hq' : b ≠ 34 := fun e => hq (by rw [e]; rfl)
      have hb' : b ≠ 92 := fun e => hb (by rw [e]; rfl)
      have hlo' : ¬ b < 32 := by rw [UInt8.lt_iff_toNat_lt]; simpa using hlo
      have hnext : (cur.advance 1).rest = bs ++ r := Cursor.rest_advance_one h
      rw [List.length_cons, show bs.length + 1 + n = (bs.length + n) + 1 by omega]
      simp only [readStringFor, go_bind, go_peekByte, h, List.cons_append, List.head?_cons,
        go_bump, beq_iff_eq, hq', hb', hlo', if_false]
      rw [ih (fun b hb => hbs b (List.mem_cons_of_mem _ hb)) (acc.push b) (cur.advance 1) hnext,
        Cursor.advance_advance]
      simp [Nat.add_comm]

theorem go_readStringFor_quote (n : Nat) (acc : Array UInt8) {cur : Cursor}
    (h : cur.rest = 34 :: r) :
    (readStringFor (n + 1) acc).go cur = (.ok (textOfBytes acc), cur.advance 1) := by
  simp [readStringFor, h]

theorem go_readStringFor_backslash (n : Nat) {acc acc' : Array UInt8} {cur cur' : Cursor}
    (h : cur.rest = 92 :: r) (hesc : (readEscape acc).go (cur.advance 1) = (.ok acc', cur')) :
    (readStringFor (n + 1) acc).go cur = (readStringFor n acc').go cur' := by
  simp [readStringFor, h, hesc]

/-- A one-letter escape is read in one round, giving the byte it stands for. -/
theorem go_readStringFor_letter (n : Nat) {acc : Array UInt8} {cur : Cursor} {e x : UInt8}
    (h : cur.rest = 92 :: e :: r)
    (hesc : ∀ cur' : Cursor, cur'.rest = e :: r →
      (readEscape acc).go cur' = (.ok (acc.push x), cur'.advance 1)) :
    (readStringFor (n + 1) acc).go cur = (readStringFor n (acc.push x)).go (cur.advance 2) := by
  rw [go_readStringFor_backslash n h (hesc _ (Cursor.rest_advance_one h)), Cursor.advance_advance]

theorem hexValue_digitChar : ∀ d < 16, hexValue (UInt8.ofNat (Nat.digitChar d).toNat) = some d := by
  decide

theorem digitChar_lt_128 : ∀ d < 16, (Nat.digitChar d).toNat < 128 := by
  decide

/-- The four hexadecimal digits of a control character's code: two zeros, then the
sixteens and the units. -/
theorem encode_hex4 {n : Nat} (h : n < 32) :
    encode (hex4 n) = [48, 48, UInt8.ofNat (Nat.digitChar (n / 16)).toNat,
      UInt8.ofNat (Nat.digitChar (n % 16)).toNat] := by
  by_cases h16 : n < 16
  · have hdiv : n / 16 = 0 := by omega
    have hmod : n % 16 = n := by omega
    rw [hex4, Nat.toDigits_of_lt_base h16, hdiv, hmod]
    rw [encode_ofList_ascii _ (by simpa using digitChar_lt_128 n h16)]
    rfl
  · have hdiv : n / 16 = 1 := by omega
    rw [hex4, Nat.toDigits_of_base_le (by decide) (by omega), hdiv,
      Nat.toDigits_of_lt_base (by decide : 1 < 16)]
    rw [encode_ofList_ascii _ (by
      simpa using ⟨digitChar_lt_128 1 (by decide), digitChar_lt_128 (n % 16) (by omega)⟩)]
    rfl

theorem go_readHex4 {cur : Cursor} {h0 h1 h2 h3 : UInt8} {a b d e : Nat}
    (h : cur.rest = h0 :: h1 :: h2 :: h3 :: r) (ha : hexValue h0 = some a)
    (hb : hexValue h1 = some b) (hd : hexValue h2 = some d) (he : hexValue h3 = some e) :
    readHex4.go cur = (.ok (((a * 16 + b) * 16 + d) * 16 + e), cur.advance 4) := by
  have hsize : cur.offset + 4 ≤ cur.bytes.size := by
    have hlen := cur.length_rest
    rw [h] at hlen
    simp only [List.length_cons] at hlen
    omega
  have hk : ∀ k, cur.bytes[cur.offset + k]? = (h0 :: h1 :: h2 :: h3 :: r)[k]? := fun k => by
    rw [cur.getElem?_bytes, h]
  have hk0 : cur.bytes[cur.offset]? = some h0 := by simpa using hk 0
  simp [readHex4, hsize, hk, hk0, ha, hb, hd, he, List.range_succ]
  rfl

theorem pushCodePoint_toNat (acc : Array UInt8) (c : Char) :
    pushCodePoint acc c.toNat = acc ++ (String.utf8EncodeChar c).toArray := by
  rw [pushCodePoint, Char.ofNat_toNat, ← encode_singleton]
  rfl

/-- A control character's escape, a backslash, `u` and four hexadecimal digits, is read
in one round, giving the character's byte. -/
theorem go_readStringFor_control (n : Nat) {acc : Array UInt8} {cur : Cursor} {c : Char}
    (hc : c.toNat < 0x20) (h : cur.rest = 92 :: 117 :: (encode (hex4 c.toNat) ++ r)) :
    (readStringFor (n + 1) acc).go cur =
      (readStringFor n (acc ++ (String.utf8EncodeChar c).toArray)).go (cur.advance 6) := by
  have h₁ := Cursor.rest_advance_one h
  have h₂ := Cursor.rest_advance_one h₁
  rw [encode_hex4 hc] at h₂
  have hhex := go_readHex4 h₂ (by decide : hexValue 48 = some 0) (by decide : hexValue 48 = some 0)
    (hexValue_digitChar (c.toNat / 16) (by omega)) (hexValue_digitChar (c.toNat % 16) (by omega))
  rw [show ((0 * 16 + 0) * 16 + c.toNat / 16) * 16 + c.toNat % 16 = c.toNat by omega] at hhex
  have hsmall : ¬ (0xDC00 ≤ c.toNat ∧ c.toNat ≤ 0xDFFF) := by omega
  have hbelow : c.toNat < 0xD800 := by omega
  have hesc : (readEscape acc).go (cur.advance 1) =
      (.ok (acc ++ (String.utf8EncodeChar c).toArray), ((cur.advance 1).advance 1).advance 4) := by
    simp [readEscape, go_nextByte h₁, readUnicodeEscape, hhex, hsmall, hbelow,
      pushCodePoint_toNat]
  rw [go_readStringFor_backslash n h hesc, Cursor.advance_advance, Cursor.advance_advance]

/-- **A character written between quotes is read back as its bytes**, in the rounds
`escapeSteps` counts. -/
theorem go_readStringFor_char (c : Char) (n : Nat) (acc : Array UInt8) (cur : Cursor)
    (h : cur.rest = encode (escapeChar c) ++ r) :
    (readStringFor (escapeSteps c + n) acc).go cur =
      (readStringFor n (acc ++ (String.utf8EncodeChar c).toArray)).go
        (cur.advance (encode (escapeChar c)).length) := by
  by_cases hp : IsPlainChar c
  · rw [escapeChar_plain hp, encode_singleton] at h ⊢
    rw [escapeSteps, if_pos hp]
    exact go_readStringFor_plain _ (plain_bytes hp) n acc cur h
  rw [escapeSteps, if_neg hp, Nat.add_comm]
  -- an escape: a backslash, then a letter or the code in hexadecimal
  have letter : ∀ {e x : UInt8} {w : String}, cur.rest = encode w ++ r → encode w = [92, e] →
      (∀ cur' : Cursor, cur'.rest = e :: r →
        (readEscape acc).go cur' = (.ok (acc.push x), cur'.advance 1)) →
      String.utf8EncodeChar c = [x] →
      (readStringFor (n + 1) acc).go cur =
        (readStringFor n (acc ++ (String.utf8EncodeChar c).toArray)).go
          (cur.advance (encode w).length) := by
    intro e x w hcur hw hesc hx
    rw [hw] at hcur ⊢
    rw [go_readStringFor_letter n hcur hesc, hx]
    simp
  revert h
  unfold escapeChar
  split
  · exact fun h => letter (e := 34) (x := 34) h (by simp [encode_eq_flatMap, String.utf8EncodeChar])
      (fun _ h' => by simp [readEscape, go_nextByte h']) (by decide)
  · exact fun h => letter (e := 92) (x := 92) h (by simp [encode_eq_flatMap, String.utf8EncodeChar])
      (fun _ h' => by simp [readEscape, go_nextByte h']) (by decide)
  · exact fun h => letter (e := 110) (x := 10) h (by simp [encode_eq_flatMap, String.utf8EncodeChar])
      (fun _ h' => by simp [readEscape, go_nextByte h']) (by decide)
  · exact fun h => letter (e := 114) (x := 13) h (by simp [encode_eq_flatMap, String.utf8EncodeChar])
      (fun _ h' => by simp [readEscape, go_nextByte h']) (by decide)
  · exact fun h => letter (e := 116) (x := 9) h (by simp [encode_eq_flatMap, String.utf8EncodeChar])
      (fun _ h' => by simp [readEscape, go_nextByte h']) (by decide)
  · rename_i hq hb _ _ _
    have hlow : c.toNat < 0x20 := by
      by_contra hge
      exact hp ⟨hq, hb, by omega⟩
    have hascii := utf8EncodeChar_ascii (show c.toNat < 128 by omega)
    split_ifs with h8 h12
    · exact fun h => letter (e := 98) (x := 8) h (by simp [encode_eq_flatMap, String.utf8EncodeChar])
        (fun _ h' => by simp [readEscape, go_nextByte h']) (by rw [hascii, show c.toNat = 8 by simpa using h8]; rfl)
    · exact fun h => letter (e := 102) (x := 12) h (by simp [encode_eq_flatMap, String.utf8EncodeChar])
        (fun _ h' => by simp [readEscape, go_nextByte h']) (by rw [hascii, show c.toNat = 12 by simpa using h12]; rfl)
    · intro h
      have hbytes : encode ("\\u" ++ hex4 c.toNat) = 92 :: 117 :: encode (hex4 c.toNat) := by
        rw [encode_append]
        simp [encode_eq_flatMap, String.utf8EncodeChar]
      rw [hbytes] at h ⊢
      rw [go_readStringFor_control n hlow h, encode_hex4 hlow]
      rfl

theorem go_readStringFor_chars (cs : List Char) (n : Nat) (acc : Array UInt8) (cur : Cursor)
    (h : cur.rest = escapedBytes cs ++ r) :
    (readStringFor ((cs.map escapeSteps).sum + n) acc).go cur =
      (readStringFor n (acc ++ (cs.flatMap String.utf8EncodeChar).toArray)).go
        (cur.advance (escapedBytes cs).length) := by
  induction cs generalizing acc cur with
  | nil => simp [escapedBytes]
  | cons c cs ih =>
      simp only [escapedBytes, List.flatMap_cons, List.append_assoc] at h
      have hnext := Cursor.rest_advance h
      rw [List.map_cons, List.sum_cons, Nat.add_assoc, go_readStringFor_char c _ acc cur h,
        ih _ _ hnext, Cursor.advance_advance]
      simp [escapedBytes, Array.append_assoc]

end Loop

/-- **A string's body is read back as the string**: the characters between the quotes,
then the closing quote. -/
theorem reads_readStringBody (s : String) :
    Reads readStringBody (escapedBytes s.toList ++ [34]) s (fun _ => True) 0 := by
  intro cur rest hrest _ _
  have hsteps := escapedBytes_steps s.toList
  have hlen : cur.rest.length = (escapedBytes s.toList).length + 1 + rest.length := by
    rw [hrest]
    simp
    omega
  obtain ⟨m, hm⟩ : ∃ m, cur.rest.length + 2 = (s.toList.map escapeSteps).sum + (m + 1) :=
    ⟨cur.rest.length + 1 - (s.toList.map escapeSteps).sum, by omega⟩
  have hbody : cur.rest = escapedBytes s.toList ++ (34 :: rest) := by
    rw [hrest, List.append_assoc]
    rfl
  simp only [readStringBody, go_bind, go_stepsLeft]
  rw [hm, go_readStringFor_chars s.toList _ #[] cur hbody,
    go_readStringFor_quote m _ (Cursor.rest_advance hbody), Cursor.advance_advance]
  simp [textOfBytes, ← encode_eq_flatMap, decodeLossy_encode]

/-- **A written string reads back as itself.** -/
theorem reads_readString (s : String) :
    Reads readString (encode (renderString s)) s (fun _ => True) 0 := by
  rw [encode_renderString]
  apply Reads.placing
  have hbody : Reads (bump >>= fun _ => readStringBody) (34 :: (escapedBytes s.toList ++ [34])) s
      (fun _ => True) 0 :=
    (reads_bump 34).bind (reads_readStringBody s) (fun _ _ => trivial)
  refine (reads_valueStart (b := 34) rfl).bind ?_ (fun _ _ => rfl)
  simpa [code] using hbody

/-- A key is read from its opening quote on. -/
theorem reads_readKey (s : String) :
    Reads readKey (encode (renderString s)) s (fun _ => True) 0 := by
  rw [encode_renderString]
  exact (reads_bump 34).bind (reads_readStringBody s) (fun _ _ => trivial)


/-! ## Numbers -/

/-- Bytes that cannot continue a number: no digit, point or exponent mark comes
first. -/
def NumberEnds (r : List UInt8) : Prop :=
  ∀ b ∈ r.head?, isDigit b = false ∧ b ≠ 46 ∧ b ≠ 101 ∧ b ≠ 69

/-- One more digit on the right of a number. -/
def pushDigit (acc : Nat) (b : UInt8) : Nat := acc * 10 + digitValue b

theorem digit_byte : ∀ d < 10, isDigit (UInt8.ofNat (Nat.digitChar d).toNat) = true ∧
    digitValue (UInt8.ofNat (Nat.digitChar d).toNat) = d := by
  decide

theorem digit_byte_ne_zero : ∀ d < 10, d ≠ 0 → UInt8.ofNat (Nat.digitChar d).toNat ≠ 48 := by
  decide

theorem isSpaceByte_of_isDigit {b : UInt8} (h : isDigit b = true) : isSpaceByte b = false := by
  simp only [isDigit, Bool.and_eq_true, decide_eq_true_eq, UInt8.le_iff_toNat_le] at h
  simp only [isSpaceByte, Bool.or_eq_false_iff, beq_eq_false_iff_ne, ne_eq, ← UInt8.toNat_inj]
  simp at h ⊢
  omega

theorem wouldOverflow_eq_false {acc d limit : Nat} (h : acc * 10 + d ≤ limit) :
    wouldOverflow acc d limit = false := by
  simp [wouldOverflow]
  omega

theorem le_foldl_pushDigit (ds : List UInt8) (acc : Nat) : acc ≤ ds.foldl pushDigit acc := by
  induction ds generalizing acc with
  | nil => exact le_rfl
  | cons b ds ih => exact le_trans (by simp only [pushDigit]; omega) (ih _)

theorem encode_toString_of_lt {n : Nat} (h : n < 10) :
    encode (toString n) = [UInt8.ofNat (Nat.digitChar n).toNat] := by
  rw [Nat.toString_eq_repr, Nat.repr_of_lt h, encode_singleton,
    utf8EncodeChar_ascii (digitChar_lt_128 n (by omega))]

theorem encode_toString_of_ge {n : Nat} (h : 10 ≤ n) :
    encode (toString n) =
      encode (toString (n / 10)) ++ [UInt8.ofNat (Nat.digitChar (n % 10)).toNat] := by
  rw [Nat.toString_eq_repr, Nat.repr_of_ge h, encode_append, encode_singleton,
    utf8EncodeChar_ascii (digitChar_lt_128 (n % 10) (by omega))]
  rfl

theorem isDigit_of_mem_toString (n : Nat) : ∀ b ∈ encode (toString n), isDigit b = true := by
  induction n using Nat.strong_induction_on with
  | _ n ih =>
      by_cases h : n < 10
      · rw [encode_toString_of_lt h]
        simpa using (digit_byte n h).1
      · rw [encode_toString_of_ge (by omega)]
        intro b hb
        rcases List.mem_append.1 hb with hb | hb
        · exact ih (n / 10) (by omega) b hb
        · obtain rfl := List.mem_singleton.1 hb
          exact (digit_byte (n % 10) (by omega)).1

/-- Collecting the digits of a number written in decimal gives the number. -/
theorem foldl_pushDigit_toString (n : Nat) : (encode (toString n)).foldl pushDigit 0 = n := by
  induction n using Nat.strong_induction_on with
  | _ n ih =>
      by_cases h : n < 10
      · rw [encode_toString_of_lt h]
        simp [pushDigit, (digit_byte n h).2]
      · rw [encode_toString_of_ge (by omega), List.foldl_append, ih (n / 10) (by omega)]
        simp only [List.foldl_cons, List.foldl_nil, pushDigit, (digit_byte (n % 10) (by omega)).2]
        omega

/-- A positive number is written without a leading zero. -/
theorem head_toString {n : Nat} (h : 0 < n) :
    ∃ b ds, encode (toString n) = b :: ds ∧ b ≠ 48 := by
  induction n using Nat.strong_induction_on with
  | _ n ih =>
      by_cases h10 : n < 10
      · exact ⟨_, [], encode_toString_of_lt h10, digit_byte_ne_zero n h10 (by omega)⟩
      · obtain ⟨b, ds, hds, hb⟩ := ih (n / 10) (by omega) (by omega)
        exact ⟨b, ds ++ _, by rw [encode_toString_of_ge (by omega), hds]; rfl, hb⟩

/-- A number is written as at least one digit. -/
theorem exists_encode_toString (n : Nat) :
    ∃ b ds, encode (toString n) = b :: ds ∧ isDigit b = true := by
  rcases Nat.eq_zero_or_pos n with rfl | hpos
  · exact ⟨48, [], by rw [encode_toString_of_lt (by decide)]; rfl, rfl⟩
  · obtain ⟨b, ds, h, -⟩ := head_toString hpos
    exact ⟨b, ds, h, isDigit_of_mem_toString n b (by rw [h]; exact List.mem_cons_self)⟩

section Digits

variable {r : List UInt8}

theorem go_finishNumber_unsigned (n : Nat) {cur : Cursor} (h : cur.rest = r)
    (hr : NumberEnds r) : (finishNumber true n).go cur = (.ok (.unsigned n), cur) := by
  cases r with
  | nil => simp [finishNumber, h]
  | cons b r =>
      obtain ⟨-, h46, h101, h69⟩ := hr b rfl
      simp [finishNumber, h, code, h46, h101, h69]

/-- **The digits after the first are collected one round each**, none overflowing
below the 64-bit bound. -/
theorem go_readIntegerFor (ds : List UInt8) (hds : ∀ b ∈ ds, isDigit b = true) (m acc : Nat)
    (hmax : ds.foldl pushDigit acc ≤ maxUnsigned) (cur : Cursor) (h : cur.rest = ds ++ r)
    (hr : NumberEnds r) :
    (readIntegerFor true (ds.length + m) acc).go cur =
      (.ok (.unsigned (ds.foldl pushDigit acc)), cur.advance ds.length) := by
  induction ds generalizing acc cur with
  | nil =>
      -- the digits end: the number is finished where they stop
      rw [List.nil_append] at h
      cases m with
      | zero => simpa [readIntegerFor] using go_finishNumber_unsigned acc h hr
      | succ m =>
          cases r with
          | nil => simpa [readIntegerFor, h] using go_finishNumber_unsigned acc h hr
          | cons b r =>
              have hb := (hr b rfl).1
              simpa [readIntegerFor, h, hb] using go_finishNumber_unsigned acc h hr
  | cons b ds ih =>
      have hb := hds b List.mem_cons_self
      have hnext : (cur.advance 1).rest = ds ++ r := Cursor.rest_advance_one h
      have hfits : acc * 10 + digitValue b ≤ maxUnsigned :=
        le_trans (le_foldl_pushDigit ds (pushDigit acc b)) hmax
      rw [List.length_cons, show ds.length + 1 + m = (ds.length + m) + 1 by omega]
      simp only [readIntegerFor, go_bind, go_peekByte, h, List.cons_append, List.head?_cons, hb,
        if_true, wouldOverflow_eq_false hfits, Bool.false_eq_true, if_false, go_bump]
      rw [ih (fun b hb => hds b (List.mem_cons_of_mem _ hb)) (acc * 10 + digitValue b) hmax _ hnext,
        Cursor.advance_advance]
      simp [pushDigit, Nat.add_comm]

/-- A number written in decimal is read back, up to the 64-bit bound. -/
theorem go_readNumber_toString (n : Nat) (hn : n ≤ maxUnsigned) {cur : Cursor}
    (h : cur.rest = encode (toString n) ++ r) (hr : NumberEnds r) :
    (readNumber true).go cur = (.ok (.unsigned n), cur.advance (encode (toString n)).length) := by
  rcases Nat.eq_zero_or_pos n with rfl | hpos
  · -- zero stands alone
    have hzero : encode (toString 0) = [48] := by
      rw [encode_toString_of_lt (by decide)]
      rfl
    rw [hzero] at h ⊢
    have hnext : (cur.advance 1).rest = r := Cursor.rest_advance_one h
    cases r with
    | nil => simp [readNumber, go_nextByte h, code, hnext, go_finishNumber_unsigned 0 hnext hr]
    | cons d r =>
        have hd := (hr d rfl).1
        simp [readNumber, go_nextByte h, code, hnext, hd, go_finishNumber_unsigned 0 hnext hr]
  · obtain ⟨b, ds, hds, hb⟩ := head_toString hpos
    have hdigits := isDigit_of_mem_toString n
    rw [hds] at hdigits h ⊢
    have hfirst := hdigits b List.mem_cons_self
    have hrest : ∀ x ∈ ds, isDigit x = true := fun x hx => hdigits x (List.mem_cons_of_mem _ hx)
    have hvalue : ds.foldl pushDigit (digitValue b) = n := by
      have := foldl_pushDigit_toString n
      rw [hds] at this
      simpa [pushDigit] using this
    have hnext : (cur.advance 1).rest = ds ++ r := Cursor.rest_advance_one h
    have hfuel : (cur.advance 1).rest.length + 2 = ds.length + (r.length + 2) := by
      rw [hnext]
      simp
      omega
    have hb' : b ≠ code '0' := by simpa [code] using hb
    simp only [readNumber, go_bind, go_nextByte h, beq_iff_eq, hb', if_false, hfirst, if_true,
      go_stepsLeft]
    rw [hfuel, go_readIntegerFor ds hrest _ _ (by rw [hvalue]; exact hn) _ hnext hr, hvalue,
      Cursor.advance_advance]
    simp [Nat.add_comm]

end Digits

/-- **A written unsigned number reads back as itself**, when it is within the bound
asked for. -/
theorem reads_readUnsigned {limit n : Nat} (name : String) (hn : n ≤ limit)
    (hlimit : limit ≤ maxUnsigned) :
    Reads (readUnsigned limit name) (encode (toString n)) n NumberEnds 0 := by
  apply Reads.placing
  intro cur rest hrest hr _
  obtain ⟨b, ds, hds, hfirst⟩ := exists_encode_toString n
  have hstart : cur.rest = b :: (ds ++ rest) := by rw [hrest, hds]; rfl
  have hminus : b ≠ code '-' := by
    intro e
    rw [e] at hfirst
    exact absurd hfirst (by decide)
  simp only [go_bind, valueStart, go_skipSpace_cons hstart (isSpaceByte_of_isDigit hfirst),
    go_pure, beq_iff_eq, hminus, if_false, hfirst, if_true, go_map,
    go_readNumber_toString n (le_trans hn hlimit) hrest hr]
  simp [hn]

end BuildWorker.Json
