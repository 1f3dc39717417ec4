import BuildWorker.Proofs.Text.Utf8
import BuildWorker.Log.Buffer
import Mathlib
/-!
# Bytes that end inside a character

A take before the last keeps back the unfinished character that ends the last chunk, so
that its bytes go out together with the rest of it.  `incompleteTail` finds it by asking
the decoder, from each of the last three positions, whether the bytes from there begin a
character without finishing it.

A truncated character (`IsTruncatedChar`) is a non-empty, proper prefix of some character's
bytes, stated against the standard encoder `String.utf8EncodeChar`, so against every
Unicode scalar value.  The decoder stops inside a character with nothing given out exactly
on those bytes (`isIncompleteChar_iff`):

* a character's bytes cut before their end leave it inside, because the bytes that would
  finish it give the character out (`isIncompleteChar_of_truncated`, through
  `DecodeState.run_out_of_between`);
* where it stops inside, the bytes are a lead byte and fewer continuation bytes than it
  announces, the first in its narrowed range (`isIncompleteChar_shape`), and these can be
  completed into a character's bytes, since every well-formed sequence of RFC 3629 is one
  (`exists_utf8EncodeChar`).

A truncated character is a lead byte and at most two continuation bytes, so bytes end with
at most one (`IsTruncatedChar.unique`), and it starts within the last three positions.  The
search finds it, and finds nothing when there is none (`incompleteTail_truncatedTail`); a
take holds back exactly that character of its last chunk
(`LogBuffer.take_holdsBackTruncated`).  The two together are
`incompleteTail_finds_truncated_char`.
-/

set_option autoImplicit false

namespace BuildWorker.Text

/-- Bytes that begin the UTF-8 encoding of some character without finishing it: a
non-empty, proper prefix of a character's bytes. -/
def IsTruncatedChar (s : List UInt8) : Prop :=
  s ≠ [] ∧ ∃ c : Char, s <+: String.utf8EncodeChar c ∧ s ≠ String.utf8EncodeChar c

/-- Continuation bytes after a lead byte: the first within `[lo, hi]`, the range its lead
byte allows, each later one within `[0x80, 0xBF]`. -/
def Continues (lo hi : UInt8) : List UInt8 → Prop
  | [] => True
  | b :: more => lo ≤ b ∧ b ≤ hi ∧ Continues 0x80 0xBF more

/-! ## What the decoder gives out -/

/-- **What a first byte can do**: give out one character and stay between characters (a
byte below 128, or a replacement), or give out nothing and go inside a character, owing
the bytes its row of the lead-byte table announces. -/
theorem startByte_cases (b : UInt8) :
    (∃ c, startByte b = ([c], .between)) ∨
    ∃ n lo hi code, leadShape b = some (n, lo, hi) ∧ startByte b = ([], .inside code n lo hi) := by
  by_cases hb : b < 128
  · exact .inl ⟨_, by rw [startByte, if_pos hb]⟩
  · simp only [startByte, hb, if_false]
    split
    next lo hi hlead => exact .inr ⟨1, lo, hi, _, hlead, rfl⟩
    next lo hi hlead => exact .inr ⟨2, lo, hi, _, hlead, rfl⟩
    next n lo hi _ _ hlead => exact .inr ⟨n, lo, hi, _, hlead, rfl⟩
    next => exact .inl ⟨_, rfl⟩

theorem startByte_out_of_between {b : UInt8} (h : (startByte b).2 = .between) :
    (startByte b).1 ≠ [] := by
  rcases startByte_cases b with ⟨c, hc⟩ | ⟨n, lo, hi, code, -, hc⟩ <;> rw [hc] at h ⊢
  · exact List.cons_ne_nil _ _
  · cases h

namespace DecodeState

/-- A step that ends between characters gives something out: the character it finished,
the byte itself, or a replacement. -/
theorem step_out_of_between {s : DecodeState} {b : UInt8} (h : (s.step b).2 = .between) :
    (s.step b).1 ≠ [] := by
  cases s with
  | between => exact startByte_out_of_between h
  | inside code missing lo hi =>
      by_cases hr : lo ≤ b ∧ b ≤ hi
      · by_cases hm : missing ≤ 1
        · simp [step, hr, hm]
        · simp [step, hr, hm] at h
      · simp [step, hr]

/-- **A run that ends between characters gives something out**, unless it read nothing:
its last step did. -/
theorem run_out_of_between {s : DecodeState} {bytes : List UInt8} (hne : bytes ≠ [])
    (h : (s.run bytes).2 = .between) : (s.run bytes).1 ≠ [] := by
  obtain ⟨init, b, rfl⟩ := List.eq_nil_or_concat bytes |>.resolve_left hne
  rw [List.concat_eq_append, run_append] at h ⊢
  simp only [run_cons, run_nil, List.append_nil] at h ⊢
  exact fun hout => step_out_of_between h (List.append_eq_nil_iff.mp hout).2

end DecodeState

/-- The bytes of a character, cut before their end, leave the decoder inside the
character with nothing given out. -/
theorem isIncompleteChar_of_truncated {s : List UInt8} (h : IsTruncatedChar s) :
    isIncompleteChar s = true := by
  obtain ⟨hne, c, ⟨t, ht⟩, hproper⟩ := h
  have htne : t ≠ [] := by
    rintro rfl
    exact hproper (by simpa using ht)
  have hrun := run_utf8EncodeChar c
  rw [← ht, DecodeState.run_append, Prod.mk.injEq] at hrun
  obtain ⟨hout, hend⟩ := hrun
  -- the rest of the bytes end between characters, so they give out the one character
  have hrest := DecodeState.run_out_of_between htne hend
  have hfirst : (DecodeState.between.run s).1 = [] :=
    ((List.append_eq_singleton_iff.mp hout).resolve_right fun h => hrest h.2).1
  -- and what read the first bytes and gave nothing out is not between characters
  have hinside : (DecodeState.between.run s).2 ≠ .between :=
    fun hend => DecodeState.run_out_of_between hne hend hfirst
  unfold isIncompleteChar
  rcases hrun : DecodeState.between.run s with ⟨out, _ | ⟨code, missing, lo, hi⟩⟩
  · exact absurd (by rw [hrun]) hinside
  · rw [hrun] at hfirst
    cases hfirst
    rfl

/-! ## The rows of the lead-byte table -/

/-- A byte above `0xF4` leads nothing: it would start a code beyond U+10FFFF. -/
theorem leadShape_above {b : UInt8} (h : 0xF4 < b.toNat) : leadShape b = none := by
  unfold leadShape
  simp only [Bool.and_eq_true, decide_eq_true_eq, UInt8.le_iff_toNat_le, beq_iff_eq,
    ← UInt8.toNat_inj, UInt8.reduceToNat]
  -- every row of the table lies below the byte
  rw [if_neg (by omega), if_neg (by omega), if_neg (by omega), if_neg (by omega),
    if_neg (by omega), if_neg (by omega), if_neg (by omega), if_neg (by omega)]

/-- **The lead-byte table, read backwards**: the byte's range, the bytes it announces, and
the range of the next byte, narrowed after E0 and ED (no short forms, no surrogates) and
after F0 and F4 (no short forms, nothing beyond U+10FFFF). -/
theorem leadShape_eq_some {b : UInt8} {n : Nat} {lo hi : UInt8}
    (h : leadShape b = some (n, lo, hi)) :
    (0xC2 ≤ b.toNat ∧ b.toNat ≤ 0xDF ∧ n = 1 ∧ lo = 0x80 ∧ hi = 0xBF) ∨
    (0xE0 ≤ b.toNat ∧ b.toNat ≤ 0xEF ∧ n = 2 ∧
      lo = (if b.toNat = 0xE0 then 0xA0 else 0x80) ∧ hi = (if b.toNat = 0xED then 0x9F else 0xBF)) ∨
    (0xF0 ≤ b.toNat ∧ b.toNat ≤ 0xF4 ∧ n = 3 ∧
      lo = (if b.toNat = 0xF0 then 0x90 else 0x80) ∧ hi = (if b.toNat = 0xF4 then 0x8F else 0xBF)) := by
  by_cases h1 : b.toNat < 0xC2
  · rw [leadShape_continuation h1] at h
    cases h
  by_cases h2 : b.toNat ≤ 0xDF
  · rw [leadShape_two (by omega) h2, Option.some.injEq, Prod.mk.injEq, Prod.mk.injEq] at h
    exact .inl ⟨by omega, h2, h.1.symm, h.2.1.symm, h.2.2.symm⟩
  by_cases h3 : b.toNat ≤ 0xEF
  · rw [leadShape_three (by omega) h3, Option.some.injEq, Prod.mk.injEq, Prod.mk.injEq] at h
    exact .inr (.inl ⟨by omega, h3, h.1.symm, h.2.1.symm, h.2.2.symm⟩)
  by_cases h4 : b.toNat ≤ 0xF4
  · rw [leadShape_four (by omega) h4, Option.some.injEq, Prod.mk.injEq, Prod.mk.injEq] at h
    exact .inr (.inr ⟨by omega, h4, h.1.symm, h.2.1.symm, h.2.2.symm⟩)
  rw [leadShape_above (by omega)] at h
  cases h

/-- A lead byte owes one to three bytes. -/
theorem leadShape_owes {b : UInt8} {n : Nat} {lo hi : UInt8} (h : leadShape b = some (n, lo, hi)) :
    1 ≤ n ∧ n ≤ 3 := by
  rcases leadShape_eq_some h with ⟨-, -, rfl, -⟩ | ⟨-, -, rfl, -⟩ | ⟨-, -, rfl, -⟩ <;> decide

/-- The range a lead byte allows for the next byte is a range of continuation bytes, and
not empty. -/
theorem leadShape_range {b : UInt8} {n : Nat} {lo hi : UInt8} (h : leadShape b = some (n, lo, hi)) :
    lo ≤ hi ∧ hi.toNat ≤ 0xBF := by
  rw [UInt8.le_iff_toNat_le]
  rcases leadShape_eq_some h with ⟨-, -, -, rfl, rfl⟩ | ⟨-, -, -, rfl, rfl⟩ | ⟨-, -, -, rfl, rfl⟩
  · decide
  -- a byte is not both E0 and ED, nor both F0 and F4
  all_goals split_ifs <;> simp only [UInt8.reduceToNat] <;> omega

/-! ## Every well-formed sequence is a character's bytes -/

/-- The bytes of a code of two bytes. -/
theorem utf8EncodeChar_ofNat_two {v : Nat} (h1 : 128 ≤ v) (h2 : v < 2048) :
    String.utf8EncodeChar (Char.ofNat v) =
      [UInt8.ofNat (v / 64 % 32 + 192), UInt8.ofNat (v % 64 + 128)] := by
  have hv : (Char.ofNat v).val.toNat = v := toNat_ofNat_of_valid (Or.inl (by omega))
  unfold String.utf8EncodeChar
  rw [hv, if_neg (by omega), if_pos (by omega)]

/-- The bytes of a code of three bytes, outside the surrogates. -/
theorem utf8EncodeChar_ofNat_three {v : Nat} (h1 : 2048 ≤ v) (h2 : v < 65536)
    (hsur : v < 0xD800 ∨ 0xDFFF < v) :
    String.utf8EncodeChar (Char.ofNat v) =
      [UInt8.ofNat (v / 4096 % 16 + 224), UInt8.ofNat (v / 64 % 64 + 128),
        UInt8.ofNat (v % 64 + 128)] := by
  have hv : (Char.ofNat v).val.toNat = v := toNat_ofNat_of_valid (by
    unfold Nat.isValidChar
    omega)
  unfold String.utf8EncodeChar
  rw [hv, if_neg (by omega), if_neg (by omega), if_pos (by omega)]

/-- The bytes of a code of four bytes. -/
theorem utf8EncodeChar_ofNat_four {v : Nat} (h1 : 65536 ≤ v) (h2 : v < 0x110000) :
    String.utf8EncodeChar (Char.ofNat v) =
      [UInt8.ofNat (v / 262144 % 8 + 240), UInt8.ofNat (v / 4096 % 64 + 128),
        UInt8.ofNat (v / 64 % 64 + 128), UInt8.ofNat (v % 64 + 128)] := by
  have hv : (Char.ofNat v).val.toNat = v := toNat_ofNat_of_valid (Or.inr ⟨by omega, h2⟩)
  unfold String.utf8EncodeChar
  rw [hv, if_neg (by omega), if_neg (by omega), if_neg (by omega)]

/-- A byte is written back from its value. -/
theorem ofNat_eq_of_toNat {b : UInt8} {n : Nat} (h : n = b.toNat) : UInt8.ofNat n = b := by
  rw [h, UInt8.ofNat_toNat]

/-- **Every well-formed sequence is a character's bytes** (RFC 3629 §4): a lead byte
followed by as many continuation bytes as it announces, the first within the range it
allows.  The character's code is the bits the bytes carry; the narrowed ranges keep it
above the short forms, off the surrogates and below U+110000. -/
theorem exists_utf8EncodeChar {b : UInt8} {n : Nat} {lo hi : UInt8} {rest : List UInt8}
    (hlead : leadShape b = some (n, lo, hi)) (hlen : rest.length = n)
    (hrest : Continues lo hi rest) : ∃ c : Char, String.utf8EncodeChar c = b :: rest := by
  have hb := UInt8.toNat_lt b
  rcases leadShape_eq_some hlead with ⟨h1, h2, rfl, rfl, rfl⟩ | ⟨h1, h2, rfl, rfl, rfl⟩ |
    ⟨h1, h2, rfl, rfl, rfl⟩
  · obtain ⟨x, rfl⟩ := List.length_eq_one_iff.mp hlen
    obtain ⟨hx1, hx2, -⟩ := hrest
    simp only [UInt8.le_iff_toNat_le, UInt8.reduceToNat] at hx1 hx2
    refine ⟨Char.ofNat (b.toNat % 32 * 64 + x.toNat % 64), ?_⟩
    rw [utf8EncodeChar_ofNat_two (by omega) (by omega)]
    congr 2 <;> apply ofNat_eq_of_toNat <;> omega
  · obtain ⟨x, y, rfl⟩ := List.length_eq_two.mp hlen
    obtain ⟨hx1, hx2, hy1, hy2, -⟩ := hrest
    simp only [UInt8.le_iff_toNat_le, UInt8.reduceToNat, apply_ite UInt8.toNat] at hx1 hx2 hy1 hy2
    refine ⟨Char.ofNat (b.toNat % 16 * 4096 + x.toNat % 64 * 64 + y.toNat % 64), ?_⟩
    -- after E0 the code is at least 0x800; after ED it stays below the surrogates
    have hcode : 2048 ≤ b.toNat % 16 * 4096 + x.toNat % 64 * 64 + y.toNat % 64 ∧
        (b.toNat % 16 * 4096 + x.toNat % 64 * 64 + y.toNat % 64 < 0xD800 ∨
          0xDFFF < b.toNat % 16 * 4096 + x.toNat % 64 * 64 + y.toNat % 64) := by
      split_ifs at hx1 hx2 <;> omega
    rw [utf8EncodeChar_ofNat_three hcode.1 (by omega) hcode.2]
    simp only [List.cons.injEq, and_true]
    refine ⟨ofNat_eq_of_toNat ?_, ofNat_eq_of_toNat ?_, ofNat_eq_of_toNat ?_⟩ <;>
      split_ifs at hx1 hx2 <;> omega
  · obtain ⟨x, y, z, rfl⟩ := List.length_eq_three.mp hlen
    obtain ⟨hx1, hx2, hy1, hy2, hz1, hz2, -⟩ := hrest
    simp only [UInt8.le_iff_toNat_le, UInt8.reduceToNat, apply_ite UInt8.toNat]
      at hx1 hx2 hy1 hy2 hz1 hz2
    refine ⟨Char.ofNat (b.toNat % 8 * 262144 + x.toNat % 64 * 4096 + y.toNat % 64 * 64 +
      z.toNat % 64), ?_⟩
    -- after F0 the code is at least 0x10000; after F4 it is at most U+10FFFF
    have hcode : 65536 ≤ b.toNat % 8 * 262144 + x.toNat % 64 * 4096 + y.toNat % 64 * 64 +
        z.toNat % 64 ∧
        b.toNat % 8 * 262144 + x.toNat % 64 * 4096 + y.toNat % 64 * 64 + z.toNat % 64 <
          0x110000 := by
      split_ifs at hx1 hx2 <;> omega
    rw [utf8EncodeChar_ofNat_four hcode.1 hcode.2]
    simp only [List.cons.injEq, and_true]
    refine ⟨ofNat_eq_of_toNat ?_, ofNat_eq_of_toNat ?_, ofNat_eq_of_toNat ?_,
      ofNat_eq_of_toNat ?_⟩ <;> split_ifs at hx1 hx2 <;> omega

/-! ## Where the decoder stops inside a character -/

/-- A first byte that gives nothing out is a lead byte: the decoder goes inside a
character, owing the bytes the lead byte announces. -/
theorem startByte_silent {b : UInt8} (h : (startByte b).1 = []) :
    ∃ n lo hi code, leadShape b = some (n, lo, hi) ∧ startByte b = ([], .inside code n lo hi) := by
  rcases startByte_cases b with ⟨c, hc⟩ | hlead
  · rw [hc] at h
    cases h
  · exact hlead

namespace DecodeState

/-- Inside a character, a run that gives nothing out read fewer bytes than were owed,
each within its range: a byte out of range is replaced at once, and the last byte owed
finishes the character. -/
theorem continues_of_run_silent {code missing : Nat} {lo hi : UInt8} {rest : List UInt8}
    (hmissing : 1 ≤ missing) (h : ((inside code missing lo hi).run rest).1 = []) :
    rest.length < missing ∧ Continues lo hi rest := by
  induction rest generalizing code missing lo hi with
  | nil => exact ⟨hmissing, trivial⟩
  | cons b more ih =>
      rw [run_cons, List.append_eq_nil_iff] at h
      obtain ⟨hstep, hmore⟩ := h
      by_cases hr : lo ≤ b ∧ b ≤ hi
      · by_cases hm : missing ≤ 1
        · simp [step, hr, hm] at hstep
        · rw [step_more hr.1 hr.2 (by omega)] at hmore
          obtain ⟨hlen, hcont⟩ := ih (by omega) hmore
          exact ⟨by simp; omega, hr.1, hr.2, hcont⟩
      · simp [step, hr] at hstep

end DecodeState

/-- **Where the decoder stops inside a character having given nothing out, the bytes are
a lead byte and fewer continuation bytes than it announces**, the first within the range
the lead byte allows. -/
theorem isIncompleteChar_shape {b : UInt8} {rest : List UInt8}
    (h : isIncompleteChar (b :: rest) = true) :
    ∃ n lo hi, leadShape b = some (n, lo, hi) ∧ rest.length < n ∧ Continues lo hi rest := by
  have hsilent : (DecodeState.between.run (b :: rest)).1 = [] := by
    unfold isIncompleteChar at h
    split at h
    next hrun => rw [hrun]
    next => cases h
  rw [DecodeState.run_cons, step_between, List.append_eq_nil_iff] at hsilent
  obtain ⟨n, lo, hi, code, hlead, hstart⟩ := startByte_silent hsilent.1
  rw [hstart] at hsilent
  exact ⟨n, lo, hi, hlead, DecodeState.continues_of_run_silent (leadShape_owes hlead).1 hsilent.2⟩

/-! ## Truncated characters -/

namespace Continues

/-- Continuation bytes that all stay within `[0x80, 0xBF]` when the first range does. -/
theorem toNat_le {lo hi : UInt8} {rest : List UInt8} (h : Continues lo hi rest)
    (hhi : hi.toNat ≤ 0xBF) : ∀ x ∈ rest, x.toNat ≤ 0xBF := by
  induction rest generalizing lo hi with
  | nil => simp
  | cons b more ih =>
      obtain ⟨-, hb, hmore⟩ := h
      rw [UInt8.le_iff_toNat_le] at hb
      exact List.forall_mem_cons.mpr ⟨by omega, ih hmore (by decide)⟩

theorem replicate (k : Nat) : Continues 0x80 0xBF (List.replicate k 0x80) := by
  induction k with
  | zero => trivial
  | succ k ih => exact ⟨by decide, by decide, ih⟩

/-- Continuation bytes short of `n` can be completed to `n` of them: the least byte of
each range will do. -/
theorem complete {lo hi : UInt8} {rest : List UInt8} {n : Nat} (hlohi : lo ≤ hi)
    (h : Continues lo hi rest) (hlen : rest.length < n) :
    ∃ t, t ≠ [] ∧ (rest ++ t).length = n ∧ Continues lo hi (rest ++ t) := by
  induction rest generalizing lo hi n with
  | nil =>
      refine ⟨lo :: List.replicate (n - 1) 0x80, List.cons_ne_nil _ _, ?_,
        UInt8.le_refl lo, hlohi, replicate _⟩
      simp only [List.length_nil] at hlen
      simp only [List.nil_append, List.length_cons, List.length_replicate]
      omega
  | cons b more ih =>
      obtain ⟨hb1, hb2, hmore⟩ := h
      simp only [List.length_cons] at hlen
      obtain ⟨t, ht, htlen, htc⟩ := ih (by decide) hmore (show more.length < n - 1 by omega)
      refine ⟨t, ht, ?_, hb1, hb2, htc⟩
      simp only [List.cons_append, List.length_cons] at htlen ⊢
      omega

end Continues

/-- A lead byte and fewer continuation bytes than it announces begin a character's bytes:
complete them, and the whole is a character's bytes. -/
theorem isTruncatedChar_of_shape {b : UInt8} {rest : List UInt8} {n : Nat} {lo hi : UInt8}
    (hlead : leadShape b = some (n, lo, hi)) (hlen : rest.length < n)
    (hrest : Continues lo hi rest) : IsTruncatedChar (b :: rest) := by
  obtain ⟨t, ht, htlen, htc⟩ := hrest.complete (leadShape_range hlead).1 hlen
  obtain ⟨c, hc⟩ := exists_utf8EncodeChar hlead htlen htc
  refine ⟨List.cons_ne_nil _ _, c, ⟨t, by rw [hc, List.cons_append]⟩, fun heq => ht ?_⟩
  rw [hc, ← List.cons_append] at heq
  exact List.self_eq_append_right.mp heq

/-- **The decoder stops inside a character with nothing given out exactly on the bytes
that begin some character's encoding without finishing it.** -/
theorem isIncompleteChar_iff {s : List UInt8} : isIncompleteChar s = true ↔ IsTruncatedChar s := by
  refine ⟨fun h => ?_, isIncompleteChar_of_truncated⟩
  cases s with
  | nil => cases h
  | cons b rest =>
      obtain ⟨n, lo, hi, hlead, hlen, hrest⟩ := isIncompleteChar_shape h
      exact isTruncatedChar_of_shape hlead hlen hrest

namespace IsTruncatedChar

/-- A truncated character is a lead byte, `0xC2` or above, then at most two bytes of at
most `0xBF` each. -/
theorem shape {s : List UInt8} (h : IsTruncatedChar s) :
    ∃ b rest, s = b :: rest ∧ 0xC2 ≤ b.toNat ∧ rest.length ≤ 2 ∧ ∀ x ∈ rest, x.toNat ≤ 0xBF := by
  cases s with
  | nil => exact absurd rfl h.1
  | cons b rest =>
      obtain ⟨n, lo, hi, hlead, hlen, hrest⟩ := isIncompleteChar_shape (isIncompleteChar_iff.mpr h)
      have hlead_byte : 0xC2 ≤ b.toNat := by
        rcases leadShape_eq_some hlead with ⟨h1, -⟩ | ⟨h1, -⟩ | ⟨h1, -⟩ <;> omega
      exact ⟨b, rest, rfl, hlead_byte, by have := (leadShape_owes hlead).2; omega,
        hrest.toNat_le (leadShape_range hlead).2⟩

theorem length_le {s : List UInt8} (h : IsTruncatedChar s) : s.length ≤ 3 := by
  obtain ⟨b, rest, rfl, -, hlen, -⟩ := h.shape
  simp only [List.length_cons]
  omega

/-- One truncated character never ends another: the shorter one's lead byte would be a
continuation byte of the longer. -/
theorem eq_of_suffix {s t : List UInt8} (hs : IsTruncatedChar s) (ht : IsTruncatedChar t)
    (hst : s <:+ t) : s = t := by
  obtain ⟨pre, rfl⟩ := hst
  cases pre with
  | nil => rfl
  | cons p pre =>
      obtain ⟨b, rest, rfl, hb, -⟩ := hs.shape
      obtain ⟨_, rest', heq, -, -, hcont⟩ := ht.shape
      rw [List.cons_append, List.cons.injEq] at heq
      have hmem : b ∈ rest' := by
        rw [← heq.2]
        exact List.mem_append_right _ List.mem_cons_self
      have := hcont b hmem
      omega

/-- **Bytes end with at most one truncated character.** -/
theorem unique {d s t : List UInt8} (hs : IsTruncatedChar s) (ht : IsTruncatedChar t)
    (hsd : s <:+ d) (htd : t <:+ d) : s = t := by
  rcases List.suffix_or_suffix_of_suffix hsd htd with hst | hts
  · exact hs.eq_of_suffix ht hst
  · exact (ht.eq_of_suffix hs hts).symm

end IsTruncatedChar

/-! ## The unfinished character at the end -/

/-- `n` is the length of the one truncated character that ends `d`, or zero when none
does. -/
structure TruncatedTail (d : List UInt8) (n : Nat) : Prop where
  /-- At most one suffix of `d` is a truncated character. -/
  unique : ∀ s t, s <:+ d → t <:+ d → IsTruncatedChar s → IsTruncatedChar t → s = t
  /-- A suffix that is a truncated character has length `n`. -/
  length_eq : ∀ s, s <:+ d → IsTruncatedChar s → n = s.length
  /-- With no such suffix, `n` is zero. -/
  eq_zero : (∀ s, s <:+ d → ¬ IsTruncatedChar s) → n = 0

/-- A truncated character that ends the bytes starts at one of the positions the search
looks at: the last three, or all of them when there are fewer. -/
theorem mem_tailStarts {d s : List UInt8} (hs : s <:+ d) (h : IsTruncatedChar s) :
    d.length - s.length ∈ (List.range 3).filterMap fun k =>
      if k + (d.length - 3) < d.length then some (k + (d.length - 3)) else none := by
  have hlen := h.length_le
  have hpos : 0 < s.length := List.length_pos_iff.mpr h.1
  have hle := hs.length_le
  refine List.mem_filterMap.mpr ⟨d.length - s.length - (d.length - 3), ?_, ?_⟩
  · rw [List.mem_range]
    omega
  · rw [if_pos (by omega)]
    congr 1
    omega

/-- **The search finds the truncated character that ends the bytes**: it looks at the last
three positions, which is where one can start, and a truncated character is the only kind
of suffix it accepts. -/
theorem incompleteTail_truncatedTail (d : List UInt8) : TruncatedTail d (incompleteTail d) := by
  refine ⟨fun s t hs ht h1 h2 => h1.unique h2 hs ht, fun s hs htr => ?_, fun hnone => ?_⟩
  · unfold incompleteTail
    dsimp only
    split
    next i hfound =>
      have hi := isIncompleteChar_iff.mp (List.find?_some hfound :)
      rw [← hi.unique htr (List.drop_suffix i d) hs, List.length_drop]
    next hfound =>
      have hmiss := List.find?_eq_none.mp hfound _ (mem_tailStarts hs htr)
      rw [← List.suffix_iff_eq_drop.mp hs, isIncompleteChar_iff] at hmiss
      exact absurd htr hmiss
  · unfold incompleteTail
    dsimp only
    split
    next i hfound =>
      exact absurd (isIncompleteChar_iff.mp (List.find?_some hfound :)) (hnone _ (List.drop_suffix i d))
    next => rfl

example : incompleteTail [0x78, 0xF0, 0x9F, 0x98] = 3 := by decide

example : incompleteTail [0x78, 0xA9] = 0 := by decide

end BuildWorker.Text

namespace BuildWorker

namespace LogBuffer

/-- Taking for a send that is not the last leaves behind the unfinished character that
ends the last chunk, under that chunk's section, or nothing. -/
theorem take_false_chunks (buf : LogBuffer) :
    (buf.take false).2.chunks =
      match buf.chunks.getLast? with
      | none => []
      | some last =>
          if Text.incompleteTail last.data = 0 then []
          else [⟨last.sectionName,
            last.data.drop (last.data.length - Text.incompleteTail last.data)⟩] := by
  unfold take
  simp only [Bool.false_eq_true, if_false]
  cases buf.chunks.getLast? with
  | none => rfl
  | some last =>
      by_cases h0 : Text.incompleteTail last.data = 0 <;> simp [h0]

/-- What a take may hold back of the chunks `ready` for a later send: the truncated
character that ends the last chunk, under that chunk's section, and nothing else. -/
def HoldsBackTruncated (ready held : List Chunk) : Prop :=
  match ready.getLast? with
  | none => held = []
  | some last =>
      (∀ s, s <:+ last.data → Text.IsTruncatedChar s → held = [⟨last.sectionName, s⟩]) ∧
      ((∀ s, s <:+ last.data → ¬ Text.IsTruncatedChar s) → held = [])

theorem take_holdsBackTruncated (buf : LogBuffer) :
    HoldsBackTruncated buf.chunks (buf.take false).2.chunks := by
  rw [take_false_chunks]
  unfold HoldsBackTruncated
  cases buf.chunks.getLast? with
  | none => rfl
  | some last =>
      have htail := Text.incompleteTail_truncatedTail last.data
      dsimp only
      refine ⟨fun s hs htr => ?_, fun hnone => ?_⟩
      · have hpos : 0 < s.length := List.length_pos_iff.mpr htr.1
        rw [htail.length_eq s hs htr, if_neg (by omega), ← List.suffix_iff_eq_drop.mp hs]
      · rw [htail.eq_zero hnone, if_pos rfl]

end LogBuffer

/-- **The unfinished character at the end of some bytes is the one truncated character that
ends them**: its length, or zero when no suffix begins a character without finishing it.  So
a take before the last holds back exactly the truncated character that ends the last chunk,
and never bytes that cannot become a character. -/
theorem incompleteTail_finds_truncated_char :
    (∀ d, Text.TruncatedTail d (Text.incompleteTail d)) ∧
    ∀ buf : LogBuffer, LogBuffer.HoldsBackTruncated buf.chunks (buf.take false).2.chunks :=
  ⟨Text.incompleteTail_truncatedTail, LogBuffer.take_holdsBackTruncated⟩

end BuildWorker
