import BuildWorker.Text.Utf8
import Mathlib
/-!
# The UTF-8 bytes of a text

`Text.encode` gives the bytes of a text as the runtime stores them.  This module reads
them as the standard writes them: each character in turn, one to four bytes each
(`encode_eq_flatMap`), a character below 128 as its own code (`utf8EncodeChar_ascii`).

The log's decoder reads every character's bytes back as the character
(`run_utf8EncodeChar`): the lead byte names the length and narrows the range of the next
byte exactly as the encoder fills it, and each continuation byte adds six bits.  So a
text's bytes decode to the text with nothing replaced (`decodeLossy_encode`), and they
never end inside a character (`incompleteTail_encode`), since any later position starts
either a character or a stray continuation byte, which the decoder replaces at once.
-/

set_option autoImplicit false

namespace BuildWorker.Text

/-- The bytes of a byte array, in order, are the bytes of its underlying array. -/
theorem ByteArray.toList_loop (bs : ByteArray) (i : Nat) (r : List UInt8) :
    ByteArray.toList.loop bs i r = r.reverse ++ bs.data.toList.drop i := by
  fun_induction ByteArray.toList.loop bs i r with
  | case1 i r hi ih =>
      rw [ih, List.reverse_cons, List.append_assoc, List.singleton_append]
      congr 1
      have hlen : i < bs.data.toList.length := by simpa using hi
      rw [List.drop_eq_getElem_cons hlen]
      simp [ByteArray.get!, hi]
  | case2 i r hi =>
      have hlen : bs.data.toList.length ≤ i := by simpa using hi
      simp [List.drop_eq_nil_of_le hlen]

theorem ByteArray.toList_eq (bs : ByteArray) : bs.toList = bs.data.toList := by
  simp [ByteArray.toList, ByteArray.toList_loop]

/-- **A text's bytes are its characters' encodings, one after another.** -/
theorem encode_eq_flatMap (s : String) : encode s = s.toList.flatMap String.utf8EncodeChar := by
  rw [encode, String.toUTF8_eq_toByteArray, ← String.utf8Encode_toList, ByteArray.toList_eq,
    List.utf8Encode, List.toList_data_toByteArray]

/-- Different texts have different bytes. -/
theorem encode_inj {s t : String} (h : encode s = encode t) : s = t := by
  rw [encode, encode, String.toUTF8_eq_toByteArray, String.toUTF8_eq_toByteArray,
    ByteArray.toList_eq, ByteArray.toList_eq] at h
  exact String.toByteArray_inj.mp (ByteArray.ext (Array.toList_inj.mp h))

theorem encode_ofList (cs : List Char) :
    encode (String.ofList cs) = cs.flatMap String.utf8EncodeChar := by
  rw [encode_eq_flatMap, String.toList_ofList]

/-- A valid code is the code of the character it names. -/
theorem toNat_ofNat_of_valid {n : Nat} (h : n.isValidChar) : (Char.ofNat n).toNat = n := by
  simp [Char.ofNat, h, Char.ofNatAux, Char.toNat]

/-- A code below the surrogates is the code of the character it names. -/
theorem toNat_ofNat_of_lt {n : Nat} (h : n < 0xD800) : (Char.ofNat n).toNat = n :=
  toNat_ofNat_of_valid (Or.inl h)

/-- A character below 128 is written as its own code. -/
theorem utf8EncodeChar_ascii {c : Char} (h : c.toNat < 128) :
    String.utf8EncodeChar c = [UInt8.ofNat c.toNat] := by
  unfold String.utf8EncodeChar
  rw [if_pos (show c.val.toNat ≤ 0x7f from Nat.le_of_lt_succ h)]
  rfl

/-- Text read from bytes has those bytes. -/
theorem encode_of_fromUTF8? {bytes : List UInt8} {text : String}
    (h : String.fromUTF8? (ByteArray.mk bytes.toArray) = some text) : encode text = bytes := by
  unfold String.fromUTF8? at h
  split at h
  next hvalid =>
    cases h
    rw [encode, ByteArray.toList_eq]
    rfl
  next => cases h

/-- A text that begins another has bytes that begin the other's. -/
theorem encode_prefix {s t : String} (h : s.toList <+: t.toList) : encode s <+: encode t := by
  obtain ⟨rest, hrest⟩ := h
  refine ⟨rest.flatMap String.utf8EncodeChar, ?_⟩
  rw [encode_eq_flatMap, encode_eq_flatMap, ← hrest, List.flatMap_append]

/-- A text's bytes read back as UTF-8 are the text. -/
theorem fromUTF8?_encode (s : String) :
    String.fromUTF8? (ByteArray.mk (encode s).toArray) = some s := by
  have hbytes : ByteArray.mk (encode s).toArray = s.toUTF8 := by
    rw [encode, ByteArray.toList_eq, Array.toArray_toList]
  rw [hbytes]
  unfold String.fromUTF8?
  rw [String.toUTF8_eq_toByteArray, dif_pos s.isValidUTF8]
  rfl

theorem encode_append (s t : String) : encode (s ++ t) = encode s ++ encode t := by
  rw [encode_eq_flatMap, encode_eq_flatMap, encode_eq_flatMap, String.toList_append,
    List.flatMap_append]

/-- A run of one character below 128 is a run of its code. -/
theorem encode_replicate_ascii {c : Char} (h : c.toNat < 128) (n : Nat) :
    encode (String.ofList (List.replicate n c)) = List.replicate n (UInt8.ofNat c.toNat) := by
  rw [encode_ofList]
  induction n with
  | zero => rfl
  | succ n ih => rw [List.replicate_succ, List.flatMap_cons, ih, utf8EncodeChar_ascii h]; rfl


theorem toNat_byte {n : Nat} (h : n < 256) : (UInt8.ofNat n).toNat = n := by
  simp [Nat.mod_eq_of_lt h]

/-! ## Reading the bytes back -/

namespace DecodeState

@[simp] theorem run_nil (s : DecodeState) : s.run [] = ([], s) := rfl

theorem run_cons (s : DecodeState) (b : UInt8) (rest : List UInt8) :
    s.run (b :: rest) =
      ((s.step b).1 ++ ((s.step b).2.run rest).1, ((s.step b).2.run rest).2) := rfl

/-- Reading two parts is reading the first, then the second from where it left off. -/
theorem run_append (s : DecodeState) (first more : List UInt8) :
    s.run (first ++ more) =
      ((s.run first).1 ++ ((s.run first).2.run more).1, ((s.run first).2.run more).2) := by
  induction first generalizing s with
  | nil => simp
  | cons b rest ih => simp [run_cons, ih]

/-- A byte in range completes the character when it is the last one owed. -/
theorem step_last {code missing : Nat} {lo hi b : UInt8} (hlo : lo ≤ b) (hhi : b ≤ hi)
    (hmissing : missing ≤ 1) :
    (inside code missing lo hi).step b = ([Char.ofNat (code * 64 + b.toNat % 64)], .between) := by
  have hmask : b.toNat &&& 0x3F = b.toNat % 64 := Nat.and_two_pow_sub_one_eq_mod _ 6
  simp [step, hlo, hhi, hmissing, hmask]

/-- A byte in range adds its six bits when more are owed. -/
theorem step_more {code missing : Nat} {lo hi b : UInt8} (hlo : lo ≤ b) (hhi : b ≤ hi)
    (hmissing : 1 < missing) :
    (inside code missing lo hi).step b =
      ([], .inside (code * 64 + b.toNat % 64) (missing - 1) 0x80 0xBF) := by
  have hmask : b.toNat &&& 0x3F = b.toNat % 64 := Nat.and_two_pow_sub_one_eq_mod _ 6
  simp [step, hlo, hhi, Nat.not_le.mpr hmissing, hmask]

end DecodeState

/-- A lead byte of a two-byte character. -/
theorem leadShape_two {b : UInt8} (h1 : 0xC2 ≤ b.toNat) (h2 : b.toNat ≤ 0xDF) :
    leadShape b = some (1, 0x80, 0xBF) := by
  unfold leadShape
  simp only [Bool.and_eq_true, decide_eq_true_eq, UInt8.le_iff_toNat_le, UInt8.reduceToNat]
  rw [if_pos ⟨h1, h2⟩]

/-- A lead byte of a three-byte character; E0 and ED narrow the next byte's range. -/
theorem leadShape_three {b : UInt8} (h1 : 0xE0 ≤ b.toNat) (h2 : b.toNat ≤ 0xEF) :
    leadShape b = some (2, if b.toNat = 0xE0 then 0xA0 else 0x80,
      if b.toNat = 0xED then 0x9F else 0xBF) := by
  unfold leadShape
  simp only [Bool.and_eq_true, decide_eq_true_eq, UInt8.le_iff_toNat_le, beq_iff_eq,
    ← UInt8.toNat_inj, UInt8.reduceToNat]
  generalize b.toNat = n at h1 h2 ⊢
  interval_cases n <;> rfl

/-- A lead byte of a four-byte character; F0 and F4 narrow the next byte's range. -/
theorem leadShape_four {b : UInt8} (h1 : 0xF0 ≤ b.toNat) (h2 : b.toNat ≤ 0xF4) :
    leadShape b = some (3, if b.toNat = 0xF0 then 0x90 else 0x80,
      if b.toNat = 0xF4 then 0x8F else 0xBF) := by
  unfold leadShape
  simp only [Bool.and_eq_true, decide_eq_true_eq, UInt8.le_iff_toNat_le, beq_iff_eq,
    ← UInt8.toNat_inj, UInt8.reduceToNat]
  generalize b.toNat = n at h1 h2 ⊢
  interval_cases n <;> rfl

/-- A byte below C2 and above 127 leads nothing: a continuation byte, or C0 and C1, which
would only write a short code long. -/
theorem leadShape_continuation {b : UInt8} (h : b.toNat < 0xC2) : leadShape b = none := by
  unfold leadShape
  simp only [Bool.and_eq_true, decide_eq_true_eq, UInt8.le_iff_toNat_le, beq_iff_eq,
    ← UInt8.toNat_inj, UInt8.reduceToNat]
  -- every range lies above the byte; stating so first spares omega the case splits
  have h2 : ¬ (194 ≤ b.toNat ∧ b.toNat ≤ 223) := by omega
  have h3 : ¬ (225 ≤ b.toNat ∧ b.toNat ≤ 236) := by omega
  have h3' : ¬ (238 ≤ b.toNat ∧ b.toNat ≤ 239) := by omega
  have h4 : ¬ (241 ≤ b.toNat ∧ b.toNat ≤ 243) := by omega
  simp only [h2, h3, h3', h4, if_false]
  split_ifs <;> first | rfl | omega


/-- A byte of 128 or more starts no character of its own. -/
theorem not_lt_128 {b : UInt8} (h : 128 ≤ b.toNat) : ¬ b < 128 := fun hlt => by
  rw [UInt8.lt_iff_toNat_lt] at hlt
  simp at hlt
  omega

/-- A continuation byte as the encoder writes it is in the widest range the decoder takes. -/
theorem continuation_range (n : Nat) :
    (0x80 : UInt8) ≤ UInt8.ofNat (n % 64 + 128) ∧ UInt8.ofNat (n % 64 + 128) ≤ 0xBF := by
  rw [UInt8.le_iff_toNat_le, UInt8.le_iff_toNat_le, toNat_byte (by omega)]
  simp
  omega

theorem startByte_ascii {b : UInt8} (h : b.toNat < 128) :
    startByte b = ([Char.ofNat b.toNat], .between) := by
  rw [startByte, if_pos (UInt8.lt_iff_toNat_lt.mpr h)]

theorem startByte_continuation {b : UInt8} (h1 : 128 ≤ b.toNat) (h2 : b.toNat < 0xC2) :
    startByte b = ([replacementChar], .between) := by
  rw [startByte, if_neg (not_lt_128 h1), leadShape_continuation h2]

theorem startByte_two {b : UInt8} (h1 : 0xC2 ≤ b.toNat) (h2 : b.toNat ≤ 0xDF) :
    startByte b = ([], .inside (b.toNat % 32) 1 0x80 0xBF) := by
  have hmask : b.toNat &&& 0x1F = b.toNat % 32 := Nat.and_two_pow_sub_one_eq_mod _ 5
  rw [startByte, if_neg (not_lt_128 (by omega)), leadShape_two h1 h2, hmask]
  rfl

theorem startByte_three {b : UInt8} (h1 : 0xE0 ≤ b.toNat) (h2 : b.toNat ≤ 0xEF) :
    startByte b = ([], .inside (b.toNat % 16) 2 (if b.toNat = 0xE0 then 0xA0 else 0x80)
      (if b.toNat = 0xED then 0x9F else 0xBF)) := by
  have hmask : b.toNat &&& 0x0F = b.toNat % 16 := Nat.and_two_pow_sub_one_eq_mod _ 4
  rw [startByte, if_neg (not_lt_128 (by omega)), leadShape_three h1 h2, hmask]
  rfl

theorem startByte_four {b : UInt8} (h1 : 0xF0 ≤ b.toNat) (h2 : b.toNat ≤ 0xF4) :
    startByte b = ([], .inside (b.toNat % 8) 3 (if b.toNat = 0xF0 then 0x90 else 0x80)
      (if b.toNat = 0xF4 then 0x8F else 0xBF)) := by
  have hmask : b.toNat &&& 0x07 = b.toNat % 8 := Nat.and_two_pow_sub_one_eq_mod _ 3
  rw [startByte, if_neg (not_lt_128 (by omega)), leadShape_four h1 h2, hmask]
  rfl

theorem step_between (b : UInt8) : DecodeState.between.step b = startByte b := rfl

/-! ## Each character read back -/

/-- A code below 128 is one byte. -/
theorem run_one {v : Nat} (h : v < 128) :
    DecodeState.between.run [UInt8.ofNat v] = ([Char.ofNat v], .between) := by
  have hb := toNat_byte (show v < 256 by omega)
  rw [DecodeState.run_cons, step_between, startByte_ascii (by rw [hb]; exact h), hb]
  rfl

/-- A code below 0x800 is a lead byte with five bits and one continuation byte. -/
theorem run_two {v : Nat} (h1 : 128 ≤ v) (h2 : v < 2048) :
    DecodeState.between.run [UInt8.ofNat (v / 64 % 32 + 192), UInt8.ofNat (v % 64 + 128)] =
      ([Char.ofNat v], .between) := by
  have hb1 := toNat_byte (show v / 64 % 32 + 192 < 256 by omega)
  have hb2 := toNat_byte (show v % 64 + 128 < 256 by omega)
  have hcode : (v / 64 % 32 + 192) % 32 * 64 + (v % 64 + 128) % 64 = v := by omega
  rw [DecodeState.run_cons, step_between, startByte_two (by omega) (by omega), DecodeState.run_cons,
    DecodeState.step_last (continuation_range v).1 (continuation_range v).2 (Nat.le_refl 1),
    hb1, hb2, hcode]
  rfl

/-- A code below 0x10000, outside the surrogates, is a lead byte with four bits and two
continuation bytes. -/
theorem run_three {v : Nat} (h1 : 2048 ≤ v) (h2 : v < 65536) (hsur : v < 0xD800 ∨ 0xDFFF < v) :
    DecodeState.between.run [UInt8.ofNat (v / 4096 % 16 + 224), UInt8.ofNat (v / 64 % 64 + 128),
      UInt8.ofNat (v % 64 + 128)] = ([Char.ofNat v], .between) := by
  have hb1 := toNat_byte (show v / 4096 % 16 + 224 < 256 by omega)
  have hb2 := toNat_byte (show v / 64 % 64 + 128 < 256 by omega)
  have hb3 := toNat_byte (show v % 64 + 128 < 256 by omega)
  -- the lead byte narrows the second byte's range: above 0x800, below the surrogates
  have hlo : (if (UInt8.ofNat (v / 4096 % 16 + 224)).toNat = 0xE0 then (0xA0 : UInt8) else 0x80) ≤
      UInt8.ofNat (v / 64 % 64 + 128) := by
    rw [hb1, UInt8.le_iff_toNat_le, hb2]
    split
    · simp
      omega
    · simp
  have hhi : UInt8.ofNat (v / 64 % 64 + 128) ≤
      (if (UInt8.ofNat (v / 4096 % 16 + 224)).toNat = 0xED then (0x9F : UInt8) else 0xBF) := by
    rw [hb1, UInt8.le_iff_toNat_le, hb2]
    split <;> simp <;> omega
  have hcode : ((v / 4096 % 16 + 224) % 16 * 64 + (v / 64 % 64 + 128) % 64) * 64 +
      (v % 64 + 128) % 64 = v := by omega
  rw [DecodeState.run_cons, step_between, startByte_three (by omega) (by omega), DecodeState.run_cons,
    DecodeState.step_more hlo hhi (by decide), DecodeState.run_cons,
    DecodeState.step_last (continuation_range v).1 (continuation_range v).2 (Nat.le_refl 1),
    hb1, hb2, hb3, hcode]
  rfl

/-- A code from 0x10000 is a lead byte with three bits and three continuation bytes. -/
theorem run_four {v : Nat} (h1 : 65536 ≤ v) (h2 : v < 0x110000) :
    DecodeState.between.run [UInt8.ofNat (v / 262144 % 8 + 240), UInt8.ofNat (v / 4096 % 64 + 128),
      UInt8.ofNat (v / 64 % 64 + 128), UInt8.ofNat (v % 64 + 128)] = ([Char.ofNat v], .between) := by
  have hb1 := toNat_byte (show v / 262144 % 8 + 240 < 256 by omega)
  have hb2 := toNat_byte (show v / 4096 % 64 + 128 < 256 by omega)
  have hb3 := toNat_byte (show v / 64 % 64 + 128 < 256 by omega)
  have hb4 := toNat_byte (show v % 64 + 128 < 256 by omega)
  -- the lead byte narrows the second byte's range: above 0x10000, up to 0x10FFFF
  have hlo : (if (UInt8.ofNat (v / 262144 % 8 + 240)).toNat = 0xF0 then (0x90 : UInt8) else 0x80) ≤
      UInt8.ofNat (v / 4096 % 64 + 128) := by
    rw [hb1, UInt8.le_iff_toNat_le, hb2]
    split
    · simp
      omega
    · simp
  have hhi : UInt8.ofNat (v / 4096 % 64 + 128) ≤
      (if (UInt8.ofNat (v / 262144 % 8 + 240)).toNat = 0xF4 then (0x8F : UInt8) else 0xBF) := by
    rw [hb1, UInt8.le_iff_toNat_le, hb2]
    split <;> simp <;> omega
  have hcode : (((v / 262144 % 8 + 240) % 8 * 64 + (v / 4096 % 64 + 128) % 64) * 64 +
      (v / 64 % 64 + 128) % 64) * 64 + (v % 64 + 128) % 64 = v := by omega
  rw [DecodeState.run_cons, step_between, startByte_four (by omega) (by omega), DecodeState.run_cons,
    DecodeState.step_more hlo hhi (by decide), DecodeState.run_cons,
    DecodeState.step_more (continuation_range (v / 64)).1 (continuation_range (v / 64)).2 (by decide),
    DecodeState.run_cons,
    DecodeState.step_last (continuation_range v).1 (continuation_range v).2 (Nat.le_refl 1),
    hb1, hb2, hb3, hb4, hcode]
  rfl

/-- **Each character's bytes read back as that character**, whatever its length. -/
theorem run_utf8EncodeChar (c : Char) :
    DecodeState.between.run (String.utf8EncodeChar c) = ([c], .between) := by
  have hvalid : c.val.toNat < 0xD800 ∨ (0xDFFF < c.val.toNat ∧ c.val.toNat < 0x110000) := c.valid
  suffices h : DecodeState.between.run (String.utf8EncodeChar c) =
      ([Char.ofNat c.val.toNat], .between) by
    rw [h, show Char.ofNat c.val.toNat = c from Char.ofNat_toNat c]
  -- the encoder's four lengths, by the size of the code
  unfold String.utf8EncodeChar
  dsimp only
  split_ifs with h1 h2 h3
  · exact run_one (by omega)
  · exact run_two (by omega) (by omega)
  · exact run_three (by omega) (by omega) (by omega)
  · exact run_four (by omega) (by omega)

theorem run_flatMap (cs : List Char) :
    DecodeState.between.run (cs.flatMap String.utf8EncodeChar) = (cs, .between) := by
  induction cs with
  | nil => rfl
  | cons c cs ih =>
      rw [List.flatMap_cons, DecodeState.run_append, run_utf8EncodeChar, ih]
      rfl

theorem run_encode (s : String) : DecodeState.between.run (encode s) = (s.toList, .between) := by
  rw [encode_eq_flatMap, run_flatMap]

/-- **A text's bytes read back as the text**: nothing is replaced. -/
theorem decodeLossy_encode (s : String) : decodeLossy (encode s) = s := by
  rw [decodeLossy, run_encode]
  simp [DecodeState.finish]

/-- The bytes after a character's first are continuation bytes. -/
theorem continuation_of_mem_tail {c : Char} :
    ∀ b ∈ (String.utf8EncodeChar c).tail, 128 ≤ b.toNat ∧ b.toNat < 0xC0 := by
  unfold String.utf8EncodeChar
  dsimp only
  split_ifs <;> simp only [List.tail_cons, List.forall_mem_cons, List.not_mem_nil,
    IsEmpty.forall_iff, implies_true, and_true, UInt8.toNat_ofNat', Nat.reducePow] <;> omega

/-- A line feed byte is only ever the line feed character. -/
theorem eq_newline_of_mem {c : Char} (h : (10 : UInt8) ∈ String.utf8EncodeChar c) : c = '\n' := by
  have hc : Char.ofNat c.val.toNat = c := Char.ofNat_toNat c
  unfold String.utf8EncodeChar at h
  dsimp only at h
  split_ifs at h with h1 <;>
    simp only [List.mem_cons, List.not_mem_nil, or_false, ← UInt8.toNat_inj, UInt8.toNat_ofNat',
      UInt8.reduceToNat, Nat.reducePow] at h
  · -- a single byte: the character's own code, ten
    have hv : c.val.toNat = 10 := by omega
    rw [← hc, hv]
  all_goals omega

theorem isIncompleteChar_of_ne_nil {bytes : List UInt8} (h : (DecodeState.between.run bytes).1 ≠ []) :
    isIncompleteChar bytes = false := by
  unfold isIncompleteChar
  split
  next heq => rw [heq] at h; exact absurd rfl h
  next => rfl

/-- Bytes of characters, from any position, never start an unfinished character: they
start at a character, or inside one, where the decoder replaces the stray byte. -/
theorem isIncompleteChar_drop (cs : List Char) (i : Nat) :
    isIncompleteChar ((cs.flatMap String.utf8EncodeChar).drop i) = false := by
  induction cs generalizing i with
  | nil => rw [List.flatMap_nil, List.drop_nil]; rfl
  | cons c cs ih =>
      rw [List.flatMap_cons, List.drop_append]
      by_cases hlen : (String.utf8EncodeChar c).length ≤ i
      · rw [List.drop_eq_nil_of_le hlen, List.nil_append]
        exact ih _
      apply isIncompleteChar_of_ne_nil
      rcases Nat.eq_zero_or_pos i with rfl | hpos
      · -- from the character's first byte, the character is read first
        rw [List.drop_zero, Nat.zero_sub, List.drop_zero, DecodeState.run_append, run_utf8EncodeChar]
        simp
      · -- from a later byte, a continuation byte comes first and is replaced
        obtain ⟨j, rfl⟩ : ∃ j, i = j + 1 := ⟨i - 1, by omega⟩
        have hlt : j + 1 < (String.utf8EncodeChar c).length := by omega
        have hmem := List.getElem_mem (show j < (String.utf8EncodeChar c).tail.length by rw [List.length_tail]; omega)
        rw [List.getElem_tail] at hmem
        obtain ⟨hlo, hhi⟩ := continuation_of_mem_tail _ hmem
        rw [List.drop_eq_getElem_cons hlt, List.cons_append, DecodeState.run_cons, step_between,
          startByte_continuation hlo (by omega)]
        simp

/-- **No text's bytes end inside a character**, so a take holds nothing back. -/
theorem incompleteTail_encode (s : String) : incompleteTail (encode s) = 0 := by
  unfold incompleteTail
  dsimp only
  rw [List.find?_eq_none.mpr fun i _ => by rw [encode_eq_flatMap, isIncompleteChar_drop]; decide]

end BuildWorker.Text
