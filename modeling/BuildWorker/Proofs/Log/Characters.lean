import BuildWorker.Proofs.Log.Sections
import BuildWorker.Proofs.Text.Truncated
/-!
# Characters reach the server unchanged

The log sends each chunk as text, decoded with every ill-formed piece replaced.  A build's
output is a stream of text, but the writes cut it anywhere, inside a character too
(`IsTextStart`: the bytes so far are the start of a text).  Where a cut falls inside a
character, its first bytes wait at the end of the buffer's last chunk: the rest of the
character joins them, and a take holds them back (`incompleteTail`), also across a failed
send that puts the taken chunks back in front.  So every chunk but the buffer's last holds
text, and that one holds text and perhaps the first bytes of one more character, under the
current section (`LogBuffer.CutAtChars`); each write, take and requeue keeps this
(`CutAtChars.append`, `CutAtChars.take`, `CutAtChars.requeue`).  Every text delivered is
then the exact decoding of its chunk, and the texts a completing flush has delivered spell
out everything written before it (`LogRun.whole_characters_arrive_unchanged`).

Two cuts are left out.  The log is completed only at the end of a character.  And a write
that goes on with a character must not end a marker line with its first piece: that piece
is stored under the new section, so it opens a chunk of its own, and the two halves of the
character are sent apart, each replaced (`split_character_in_marker_line_replaced`).

Telling where characters start needs UTF-8 to be a prefix code: no character's bytes
start another's (`Text.utf8EncodeChar_prefix_eq`), so the characters of a text's bytes are
read off from the front (`Text.flatMap_prefix`), and bytes cut anywhere are characters and
then at most one truncated one (`IsTextStart.cut`).
-/

set_option autoImplicit false

namespace BuildWorker

/-! ## Bytes of text, cut anywhere -/

/-- Bytes that are the UTF-8 encoding of some text. -/
def IsText (bytes : List UInt8) : Prop :=
  ∃ text : String, Text.encode text = bytes

/-- Bytes that more bytes make into text: a stream of text cut anywhere. -/
def IsTextStart (bytes : List UInt8) : Prop :=
  ∃ more, IsText (bytes ++ more)

theorem isText_nil : IsText [] := ⟨"", by rw [Text.encode_eq_flatMap]; rfl⟩

theorem IsText.append {a b : List UInt8} (ha : IsText a) (hb : IsText b) : IsText (a ++ b) := by
  obtain ⟨s, rfl⟩ := ha
  obtain ⟨t, rfl⟩ := hb
  exact ⟨s ++ t, Text.encode_append s t⟩

theorem isText_flatMap (cs : List Char) : IsText (cs.flatMap String.utf8EncodeChar) :=
  ⟨String.ofList cs, Text.encode_ofList cs⟩

/-- Text decodes to itself: the text sent for its bytes has exactly those bytes. -/
theorem IsText.encode_decodeLossy {bytes : List UInt8} (h : IsText bytes) :
    Text.encode (Text.decodeLossy bytes) = bytes := by
  obtain ⟨text, rfl⟩ := h
  rw [Text.decodeLossy_encode]

theorem IsTextStart.of_prefix {a b : List UInt8} (h : IsTextStart (a ++ b)) : IsTextStart a := by
  obtain ⟨more, hmore⟩ := h
  exact ⟨b ++ more, by rwa [← List.append_assoc]⟩

namespace Text

/-- **No character's bytes start another's**: the decoder gives the first character out
at the end of its bytes, so a character whose bytes start another's is that one. -/
theorem utf8EncodeChar_prefix_eq {c d : Char}
    (h : String.utf8EncodeChar c <+: String.utf8EncodeChar d) : c = d := by
  obtain ⟨r, hr⟩ := h
  have hd := congrArg Prod.fst (run_utf8EncodeChar d)
  rw [← hr, DecodeState.run_append, run_utf8EncodeChar c] at hd
  simp only [List.singleton_append, List.cons.injEq] at hd
  exact hd.1

/-- No truncated character starts with a whole character's bytes. -/
theorem IsTruncatedChar.utf8EncodeChar_not_prefix {p : List UInt8} (hp : IsTruncatedChar p)
    (c : Char) : ¬ String.utf8EncodeChar c <+: p := by
  intro hc
  obtain ⟨-, d, hpd, hne⟩ := hp
  obtain rfl := utf8EncodeChar_prefix_eq (hc.trans hpd)
  exact hne (hpd.eq_of_length (Nat.le_antisymm hpd.length_le hc.length_le))

theorem IsTruncatedChar.not_isText {p : List UInt8} (hp : IsTruncatedChar p) : ¬ IsText p := by
  rintro ⟨text, htext⟩
  rw [encode_eq_flatMap] at htext
  cases hcs : text.toList with
  | nil => exact hp.1 (by rw [← htext, hcs]; rfl)
  | cons c cs =>
      rw [hcs, List.flatMap_cons] at htext
      exact hp.utf8EncodeChar_not_prefix c ⟨_, htext⟩

/-- A truncated character holds no line feed: its bytes are a lead byte and continuation
bytes, all of them `0x80` or above. -/
theorem IsTruncatedChar.newline_not_mem {p : List UInt8} (hp : IsTruncatedChar p) :
    (10 : UInt8) ∉ p := by
  obtain ⟨b, rest, rfl, hb, -, -⟩ := hp.shape
  obtain ⟨-, d, ⟨r, hr⟩, -⟩ := hp
  intro h10
  rcases List.mem_cons.mp h10 with h | h
  · rw [← h] at hb
    exact absurd hb (by decide)
  · have htail : 10 ∈ (String.utf8EncodeChar d).tail := by
      rw [← hr]
      exact List.mem_append_left _ h
    exact absurd (continuation_of_mem_tail 10 htail).1 (by decide)

/-- **The characters of bytes of characters are read off from the front**: characters
whose bytes start the bytes of others, and perhaps a truncated one, start those others. -/
theorem flatMap_prefix {p : List UInt8} (hp : p = [] ∨ IsTruncatedChar p) {e ds : List Char}
    (h : e.flatMap String.utf8EncodeChar <+: ds.flatMap String.utf8EncodeChar ++ p) :
    e <+: ds := by
  induction e generalizing ds with
  | nil => exact List.nil_prefix
  | cons c e ih =>
      rw [List.flatMap_cons] at h
      cases ds with
      | nil =>
          -- only the truncated character is left, and no character's bytes start it
          rw [List.flatMap_nil, List.nil_append] at h
          have hc : String.utf8EncodeChar c <+: p := (List.prefix_append _ _).trans h
          rcases hp with rfl | hp
          · exact absurd (List.prefix_nil.mp hc) String.utf8EncodeChar_ne_nil
          · exact absurd hc (hp.utf8EncodeChar_not_prefix c)
      | cons d ds =>
          rw [List.flatMap_cons, List.append_assoc] at h
          -- two characters' bytes start the same bytes: one starts the other
          have hcd : c = d := by
            rcases List.prefix_or_prefix_of_prefix ((List.prefix_append _ _).trans h)
                (List.prefix_append _ _) with h' | h'
            · exact utf8EncodeChar_prefix_eq h'
            · exact (utf8EncodeChar_prefix_eq h').symm
          subst hcd
          exact List.cons_prefix_cons.mpr ⟨rfl, ih ((List.prefix_append_right_inj _).mp h)⟩

/-- **Bytes of characters cut anywhere** are the bytes of the characters before the cut,
then the first bytes of the character it falls in, if any. -/
theorem prefix_flatMap_cut {w : List UInt8} {cs : List Char}
    (h : w <+: cs.flatMap String.utf8EncodeChar) :
    ∃ (ds : List Char) (p : List UInt8),
      w = ds.flatMap String.utf8EncodeChar ++ p ∧ (p = [] ∨ IsTruncatedChar p) := by
  induction cs generalizing w with
  | nil => exact ⟨[], [], by simpa using h, .inl rfl⟩
  | cons c cs ih =>
      rw [List.flatMap_cons] at h
      rcases List.prefix_or_prefix_of_prefix h (List.prefix_append _ _) with hw | ⟨rest, rfl⟩
      · -- the cut falls in the first character, or after it
        by_cases hfull : w = String.utf8EncodeChar c
        · exact ⟨[c], [], by simp [hfull], .inl rfl⟩
        · by_cases hnil : w = []
          · exact ⟨[], [], by simp [hnil], .inl rfl⟩
          · exact ⟨[], w, rfl, .inr ⟨hnil, c, hw, hfull⟩⟩
      · obtain ⟨ds, p, hrest, hp⟩ := ih ((List.prefix_append_right_inj _).mp h)
        exact ⟨c :: ds, p, by rw [hrest, List.flatMap_cons, List.append_assoc], hp⟩

end Text

/-- Bytes of a text cut anywhere are a text, then at most the first bytes of one more
character. -/
theorem IsTextStart.cut {w : List UInt8} (h : IsTextStart w) :
    ∃ t p, w = Text.encode t ++ p ∧ (p = [] ∨ Text.IsTruncatedChar p) := by
  obtain ⟨more, text, htext⟩ := h
  rw [Text.encode_eq_flatMap] at htext
  obtain ⟨ds, p, hw, hp⟩ := Text.prefix_flatMap_cut ⟨more, htext.symm⟩
  exact ⟨String.ofList ds, p, by rw [Text.encode_ofList]; exact hw, hp⟩

/-- What follows a text in a text is a text. -/
theorem IsText.of_append {a x : List UInt8} (ha : IsText a) (h : IsText (a ++ x)) : IsText x := by
  obtain ⟨s, rfl⟩ := ha
  obtain ⟨t, ht⟩ := h
  simp only [Text.encode_eq_flatMap] at ht
  have hpre : s.toList.flatMap String.utf8EncodeChar <+:
      t.toList.flatMap String.utf8EncodeChar ++ [] := ⟨x, by rw [List.append_nil, ht]⟩
  obtain ⟨u, hu⟩ := Text.flatMap_prefix (.inl rfl) hpre
  rw [← hu, List.flatMap_append] at ht
  rw [← List.append_cancel_left ht]
  exact isText_flatMap u

/-- What follows a text in the start of a text is the start of a text. -/
theorem IsTextStart.of_append {a x : List UInt8} (ha : IsText a) (h : IsTextStart (a ++ x)) :
    IsTextStart x := by
  obtain ⟨more, hmore⟩ := h
  exact ⟨more, ha.of_append (by rwa [List.append_assoc] at hmore)⟩

/-- A text followed by a truncated character is no text. -/
theorem not_isText_append_truncated {a p : List UInt8} (ha : IsText a)
    (hp : Text.IsTruncatedChar p) : ¬ IsText (a ++ p) :=
  fun h => hp.not_isText (ha.of_append h)

/-- The start of a text that ends with a line feed is a text: no character is cut there. -/
theorem IsTextStart.isText_of_newline {w : List UInt8} (h : IsTextStart w)
    (hend : w.getLast? = some 10) : IsText w := by
  obtain ⟨t, p, rfl, hp⟩ := h.cut
  rcases hp with rfl | hp
  · exact ⟨t, (List.append_nil _).symm⟩
  · rw [List.getLast?_append_of_ne_nil _ hp.1] at hend
    exact absurd (List.mem_of_getLast? hend) hp.newline_not_mem

/-! ## Pieces of lines -/

/-- Reading bytes into lines completes only lines that end with a line feed. -/
theorem foldl_cutLine_ends (data : List UInt8) (lines : List (List UInt8)) (current : List UInt8)
    (hlines : ∀ l ∈ lines, l.getLast? = some 10) :
    ∀ l ∈ (data.foldl cutLine (lines, current)).1, l.getLast? = some 10 := by
  induction data generalizing lines current with
  | nil => exact hlines
  | cons b rest ih =>
      rw [List.foldl_cons, cutLine]
      split
      next hb =>
        refine ih _ _ fun l hl => ?_
        rcases List.mem_append.mp hl with hl | hl
        · exact hlines l hl
        · rw [List.mem_singleton.mp hl, List.getLast?_concat, beq_iff_eq.mp hb]
      next => exact ih _ _ hlines

/-- Every piece but the last that `splitLines` cuts ends a line. -/
theorem splitLines_dropLast_lines (data : List UInt8) :
    ∀ p ∈ (splitLines data).dropLast, p.getLast? = some 10 := by
  have hends := foldl_cutLine_ends data [] [] (fun _ h => absurd h List.not_mem_nil)
  intro p hp
  rw [splitLines_eq_lineCut] at hp
  split at hp
  · exact hends p (List.mem_of_mem_dropLast hp)
  · rw [List.dropLast_concat] at hp
    exact hends p hp

/-! ## Chunks cut at characters -/

/-- Every chunk holds the bytes of a text. -/
def TextChunks (cs : List Chunk) : Prop :=
  ∀ c ∈ cs, IsText c.data

@[simp] theorem textChunks_nil : TextChunks [] := fun _ h => absurd h List.not_mem_nil

theorem textChunks_append {cs ds : List Chunk} :
    TextChunks (cs ++ ds) ↔ TextChunks cs ∧ TextChunks ds :=
  List.forall_mem_append

theorem TextChunks.bytes {cs : List Chunk} (h : TextChunks cs) : IsText (chunkBytes cs) := by
  induction cs with
  | nil => exact isText_nil
  | cons c cs ih =>
      rw [chunkBytes_cons]
      exact (h c List.mem_cons_self).append (ih fun d hd => h d (List.mem_cons_of_mem _ hd))

namespace LogBuffer

/-- What the last buffered chunk may hold: text, or text and then the first bytes of a
character not yet finished, under the buffer's section, so that the rest of the character
joins it. -/
def OpenEnd (buf : LogBuffer) (c : Chunk) : Prop :=
  IsText c.data ∨
    ∃ t p, c.data = Text.encode t ++ p ∧ Text.IsTruncatedChar p ∧ c.sectionName = buf.sectionName

/-- The buffer's chunks are cut at characters: each holds text but the last, which may end
with the first bytes of a character not yet finished. -/
structure CutAtChars (buf : LogBuffer) : Prop where
  text : TextChunks buf.chunks.dropLast
  last : ∀ c, buf.chunks.getLast? = some c → buf.OpenEnd c

theorem cutAtChars_of_nil {buf : LogBuffer} (h : buf.chunks = []) : buf.CutAtChars :=
  ⟨by rw [h]; exact textChunks_nil, fun _ hc => by simp [h] at hc⟩

/-- Chunks of text are cut at characters. -/
theorem cutAtChars_of_text {buf : LogBuffer} (h : TextChunks buf.chunks) : buf.CutAtChars :=
  ⟨fun c hc => h c (List.mem_of_mem_dropLast hc),
    fun c hc => .inl (h c (List.mem_of_getLast? hc))⟩

/-- The start of a text under the buffer's section may end the buffer. -/
theorem openEnd_of_start {buf : LogBuffer} {c : Chunk} (h : IsTextStart c.data)
    (hsec : c.sectionName = buf.sectionName) : buf.OpenEnd c := by
  obtain ⟨t, p, hc, hp⟩ := h.cut
  rcases hp with rfl | hp
  · exact .inl ⟨t, by rw [hc, List.append_nil]⟩
  · exact .inr ⟨t, p, hc, hp, hsec⟩

/-- **Storing a piece keeps the chunks cut at characters**, when the bytes go on as the
start of a text and a piece that goes on with an unfinished character keeps its section:
the piece joins the last chunk, which it continues, or starts a chunk after one that ends
a text. -/
theorem CutAtChars.push {buf mid : LogBuffer} {piece : List UInt8} (h : buf.CutAtChars)
    (hchunks : mid.chunks = buf.chunks) (hstart : IsTextStart (chunkBytes buf.chunks ++ piece))
    (hsame : ¬ IsText (chunkBytes buf.chunks) → mid.sectionName = buf.sectionName) :
    (mid.push piece).CutAtChars := by
  rcases List.eq_nil_or_concat buf.chunks with hnil | ⟨ys, last, hys⟩
  · -- no chunk yet: the piece starts one
    have hpush : (mid.push piece).chunks = [⟨mid.sectionName, piece⟩] := by
      simp [LogBuffer.push, hchunks, hnil]
    refine ⟨by rw [hpush]; exact textChunks_nil, fun c hc => ?_⟩
    rw [hpush, List.getLast?_singleton, Option.some.injEq] at hc
    subst hc
    exact openEnd_of_start (by simpa [hnil] using hstart) (push_sectionName _ _).symm
  · rw [List.concat_eq_append] at hys
    have hys_text : TextChunks ys := by simpa [hys] using h.text
    by_cases hsec : last.sectionName = mid.sectionName
    · -- the piece joins the last chunk
      have hpush : (mid.push piece).chunks = ys ++ [⟨last.sectionName, last.data ++ piece⟩] := by
        simp [LogBuffer.push, hchunks, hys, hsec]
      refine ⟨by simpa [hpush] using hys_text, fun c hc => ?_⟩
      rw [hpush, List.getLast?_concat, Option.some.injEq] at hc
      subst hc
      refine openEnd_of_start (IsTextStart.of_append hys_text.bytes ?_)
        (by rw [push_sectionName]; exact hsec)
      simpa [hys] using hstart
    · -- the piece starts a chunk, so the last one must end a text
      have hlast : IsText last.data := by
        rcases h.last last (by simp [hys]) with htext | ⟨t, p, hdata, hp, hlsec⟩
        · exact htext
        · refine absurd (hsame fun htext => ?_) fun hmid => hsec (hlsec.trans hmid.symm)
          rw [hys, chunkBytes_append, chunkBytes_cons, chunkBytes_nil, List.append_nil, hdata,
            ← List.append_assoc] at htext
          exact not_isText_append_truncated (hys_text.bytes.append ⟨t, rfl⟩) hp htext
      have hpush : (mid.push piece).chunks = ys ++ [last] ++ [⟨mid.sectionName, piece⟩] := by
        simp [LogBuffer.push, hchunks, hys, hsec]
      have hbefore : TextChunks (ys ++ [last]) :=
        textChunks_append.mpr ⟨hys_text, fun c hc => by rw [List.mem_singleton.mp hc]; exact hlast⟩
      refine ⟨by simpa [hpush] using hbefore, fun c hc => ?_⟩
      rw [hpush, List.getLast?_concat, Option.some.injEq] at hc
      subst hc
      refine openEnd_of_start (IsTextStart.of_append hbefore.bytes ?_) (push_sectionName _ _).symm
      simpa [hys] using hstart

/-- One piece of a write keeps the chunks cut at characters. -/
theorem CutAtChars.appendPiece {buf : LogBuffer} {piece : List UInt8} (h : buf.CutAtChars)
    (hstart : IsTextStart (chunkBytes buf.chunks ++ piece))
    (hsame : ¬ IsText (chunkBytes buf.chunks) →
      (buf.appendPiece piece).sectionName = buf.sectionName) :
    (buf.appendPiece piece).CutAtChars := by
  rw [appendPiece_eq, push_sectionName] at hsame
  rw [appendPiece_eq]
  refine h.push ?_ hstart hsame
  split <;> rfl

/-- The pieces of a write keep the chunks cut at characters: each but the last ends a line,
so only the first can go on with an unfinished character. -/
theorem CutAtChars.foldl_appendPiece (pieces : List (List UInt8)) {buf : LogBuffer}
    (h : buf.CutAtChars) (hstart : IsTextStart (chunkBytes buf.chunks ++ pieces.flatten))
    (hlines : ∀ p ∈ pieces.dropLast, p.getLast? = some 10)
    (hfirst : ¬ IsText (chunkBytes buf.chunks) →
      ∀ first ∈ pieces.head?, (buf.appendPiece first).sectionName = buf.sectionName) :
    (pieces.foldl LogBuffer.appendPiece buf).CutAtChars := by
  induction pieces generalizing buf with
  | nil => exact h
  | cons p ps ih =>
      rw [List.flatten_cons, ← List.append_assoc] at hstart
      have h₁ := h.appendPiece hstart.of_prefix fun hnot => hfirst hnot p rfl
      refine ih h₁ (by rwa [appendPiece_bytes]) (fun q hq => ?_) fun hnot first hf => ?_
      · have hps : ps ≠ [] := List.ne_nil_of_mem (List.mem_of_mem_dropLast hq)
        exact hlines q (by rw [List.dropLast_cons_of_ne_nil hps]; exact List.mem_cons_of_mem _ hq)
      · -- the first piece ended a line, so the bytes before the next one are text
        have hps : ps ≠ [] := List.ne_nil_of_mem (List.mem_of_mem_head? hf)
        have hend : p.getLast? = some 10 :=
          hlines p (by rw [List.dropLast_cons_of_ne_nil hps]; exact List.mem_cons_self)
        have hp : p ≠ [] := fun hnil => by simp [hnil] at hend
        refine absurd ?_ hnot
        rw [appendPiece_bytes]
        exact hstart.of_prefix.isText_of_newline (by rwa [List.getLast?_append_of_ne_nil _ hp])

/-- **A write keeps the chunks cut at characters**, when the bytes go on as the start of a
text and a write that goes on with an unfinished character ends no marker line with its
first piece. -/
theorem CutAtChars.append {buf : LogBuffer} {data : List UInt8} (h : buf.CutAtChars)
    (hstart : IsTextStart (chunkBytes buf.chunks ++ data))
    (hfirst : ¬ IsText (chunkBytes buf.chunks) → ∀ first ∈ (splitLines data).head?,
      first.getLast? = some 10 → markerSection (trackLine buf.line first) = none) :
    (buf.append data).CutAtChars := by
  refine h.foldl_appendPiece _ (by rwa [splitLines_flatten]) (splitLines_dropLast_lines data)
    fun hnot first hf => ?_
  rw [appendPiece_eq, push_sectionName]
  split
  next hend => simp [sectionAfterLine, hfirst hnot first hf hend]
  next => rfl

/-- **A take sends text and keeps the rest cut at characters**: it holds back the first
bytes of an unfinished character at the end, with their chunk's section, and a take that
completes the log finds none when the bytes are text. -/
theorem CutAtChars.take {buf : LogBuffer} (h : buf.CutAtChars) (complete : Bool)
    (hcomplete : complete = true → IsText (chunkBytes buf.chunks)) :
    TextChunks (buf.take complete).1 ∧ (buf.take complete).2.CutAtChars := by
  rcases List.eq_nil_or_concat buf.chunks with hnil | ⟨ys, last, hys⟩
  · have htake : buf.take complete = ([], { buf with chunks := [] }) := by
      unfold LogBuffer.take
      cases complete <;> simp [hnil]
    rw [htake]
    exact ⟨textChunks_nil, cutAtChars_of_nil rfl⟩
  rw [List.concat_eq_append] at hys
  have hys_text : TextChunks ys := by simpa [hys] using h.text
  -- a last chunk of text: everything goes
  have whole : IsText last.data → TextChunks (buf.take complete).1 ∧
      (buf.take complete).2.CutAtChars := by
    intro hlast
    obtain ⟨t, ht⟩ := hlast
    have htake : buf.take complete = (buf.chunks, { buf with chunks := [] }) := by
      unfold LogBuffer.take
      cases complete
      · simp [hys, ← ht, Text.incompleteTail_encode]
      · rfl
    rw [htake, hys]
    exact ⟨textChunks_append.mpr ⟨hys_text, fun c hc => by
      rw [List.mem_singleton.mp hc]; exact ⟨t, ht⟩⟩, cutAtChars_of_nil rfl⟩
  rcases h.last last (by simp [hys]) with hlast | ⟨t, p, hdata, hp, hsec⟩
  · exact whole hlast
  cases complete with
  | true =>
      refine absurd (hcomplete rfl) ?_
      rw [hys, chunkBytes_append, chunkBytes_cons, chunkBytes_nil, List.append_nil, hdata,
        ← List.append_assoc]
      exact not_isText_append_truncated (hys_text.bytes.append ⟨t, rfl⟩) hp
  | false =>
      -- the unfinished character is found and held back under its chunk's section
      have hfound : Text.incompleteTail last.data = p.length :=
        (Text.incompleteTail_truncatedTail last.data).length_eq p ⟨_, hdata.symm⟩ hp
      have hpos : p.length ≠ 0 := fun h0 => hp.1 (List.eq_nil_of_length_eq_zero h0)
      have hkept : last.data.take (last.data.length - p.length) = Text.encode t := by
        rw [hdata, List.length_append, Nat.add_sub_cancel, List.take_left' rfl]
      have hheld : last.data.drop (last.data.length - p.length) = p := by
        rw [hdata, List.length_append, Nat.add_sub_cancel, List.drop_left' rfl]
      have htake : buf.take false =
          ((if (Text.encode t).isEmpty then ys else ys ++ [{ last with data := Text.encode t }]),
            { buf with chunks := [⟨last.sectionName, p⟩] }) := by
        unfold LogBuffer.take
        simp only [Bool.false_eq_true, if_false, hys, List.getLast?_concat, hfound, beq_iff_eq,
          hpos, hkept, hheld, List.dropLast_concat, List.nil_append]
      rw [htake]
      refine ⟨?_, ⟨by simp, fun c hc => ?_⟩⟩
      · split
        · exact hys_text
        · exact textChunks_append.mpr ⟨hys_text, fun c hc => by
            rw [List.mem_singleton.mp hc]; exact ⟨t, rfl⟩⟩
      · simp only [List.getLast?_singleton, Option.some.injEq] at hc
        subst hc
        exact .inr ⟨"", p, by simp [Text.encode_eq_flatMap], hp, hsec⟩

/-- **Chunks of text put back in front keep the buffer cut at characters.** -/
theorem CutAtChars.requeue {buf : LogBuffer} {unsent : List Chunk} (h : buf.CutAtChars)
    (hunsent : TextChunks unsent) : (buf.requeue unsent).CutAtChars := by
  by_cases hnil : buf.chunks = []
  · exact cutAtChars_of_text (by simpa [LogBuffer.requeue, hnil] using hunsent)
  · refine ⟨?_, fun c hc => ?_⟩
    · show TextChunks (unsent ++ buf.chunks).dropLast
      rw [List.dropLast_append_of_ne_nil hnil]
      exact textChunks_append.mpr ⟨hunsent, h.text⟩
    · have hc' : buf.chunks.getLast? = some c := by
        rwa [LogBuffer.requeue, List.getLast?_append_of_ne_nil _ hnil] at hc
      exact h.last c hc'

end LogBuffer

/-! ## Runs over a stream of text -/

namespace LogRun

/-- What a run over a stream of text asks of a step: a write leaves the bytes written the
start of a text, and one made while they end inside a character ends no marker line with
its first piece; a flush that completes the log starts only at the end of a character. -/
def StreamStep (s : LogRun) : LogEvent → Prop
  | .write data => IsTextStart (s.written ++ data) ∧
      (¬ IsText s.written → ∀ first ∈ (splitLines data).head?, first.getLast? = some 10 →
        markerSection (trackLine s.buffer.line first) = none)
  | .take complete => complete = true → IsText s.written
  | _ => True

/-- The states a build log reaches from its opening over a stream of text written in
pieces cut anywhere, with flushes and request outcomes in any order. -/
inductive StreamWrites : LogRun → Prop where
  | opened : StreamWrites {}
  | step {s s' : LogRun} {e : LogEvent} : StreamWrites s → LogStep s e s' → s.StreamStep e →
      StreamWrites s'

theorem StreamWrites.reachable {s : LogRun} (hs : s.StreamWrites) : s.Reachable := by
  induction hs with
  | opened => exact .opened
  | step _ step _ ih => exact ih.step step

/-- The bytes written are those sent or under way, then those buffered. -/
theorem Accounted.written_eq {s : LogRun} (hs : s.Accounted) :
    s.written = chunkBytes (s.delivered ++ s.pending) ++ chunkBytes s.buffer.chunks := by
  rw [← hs.ordered, chunkBytes_append]
  unfold inFlight pending
  cases s.flush <;> simp

/-- Every chunk delivered or in flight holds text, and the buffer is cut at characters. -/
structure CharsCut (s : LogRun) : Prop where
  sent : TextChunks (s.delivered ++ s.pending)
  buffer : s.buffer.CutAtChars

/-- **A step keeps the chunks cut at characters**: a write by `CutAtChars.append`, a take
by `CutAtChars.take`, a failed send by `CutAtChars.requeue`; delivering only moves a
chunk. -/
theorem CharsCut.step {s s' : LogRun} {e : LogEvent} (hs : s.CharsCut) (hacc : s.Accounted)
    (step : LogStep s e s') (allowed : s.StreamStep e) : s'.CharsCut := by
  have hsent := hs.sent.bytes
  have hwritten := hacc.written_eq
  cases step with
  | write data =>
      obtain ⟨hstart, hfirst⟩ := allowed
      refine ⟨hs.sent, hs.buffer.append ?_ fun hnot => hfirst fun htext => hnot ?_⟩
      · rw [hwritten, List.append_assoc] at hstart
        exact hstart.of_append hsent
      · rw [hwritten] at htext
        exact hsent.of_append htext
  | take complete idle =>
      have hidle : s.pending = [] := by simp [pending, idle]
      obtain ⟨hready, hbuf⟩ := hs.buffer.take complete fun hc => by
        have htext := allowed hc
        rw [hwritten] at htext
        exact hsent.of_append htext
      refine ⟨?_, hbuf⟩
      simpa [pending, hidle, textChunks_append] using
        (⟨(textChunks_append.mp hs.sent).1, hready⟩ : TextChunks s.delivered ∧ _)
  | deliver complete c rest mark busy =>
      exact ⟨by simpa [pending, busy] using hs.sent, hs.buffer⟩
  | fail complete c rest mark busy =>
      have hpending : TextChunks (c :: rest) := by
        simpa [pending, busy] using (textChunks_append.mp hs.sent).2
      exact ⟨by simpa [pending] using (textChunks_append.mp hs.sent).1,
        hs.buffer.requeue hpending⟩
  | finish complete mark busy =>
      exact ⟨by simpa [pending, busy] using hs.sent, hs.buffer⟩

theorem StreamWrites.charsCut {s : LogRun} (hs : s.StreamWrites) : s.CharsCut := by
  induction hs with
  | opened => exact ⟨by simp [pending], LogBuffer.cutAtChars_of_nil rfl⟩
  | step run step allowed ih => exact ih.step run.reachable.accounted step allowed

/-- The texts sent for chunks of text spell out their bytes. -/
theorem encode_join_texts {cs : List Chunk} (h : TextChunks cs) :
    Text.encode (String.join (cs.map fun c => Text.decodeLossy c.data)) = chunkBytes cs := by
  induction cs with
  | nil => rw [List.map_nil, String.join_nil, Text.encode_eq_flatMap]; rfl
  | cons c cs ih =>
      rw [List.map_cons, String.join_cons, Text.encode_append, chunkBytes_cons,
        (h c List.mem_cons_self).encode_decodeLossy, ih fun d hd => h d (List.mem_cons_of_mem _ hd)]

/-- **Characters reach the server unchanged, however the writes cut them.**  In every state
of every interleaving of writes, flushes and request outcomes over a stream of text cut
anywhere (but not, with a write's first piece, inside a character at the end of a marker
line, and completed only at the end of a character), every text delivered has exactly the
bytes of its chunk, so no byte was replaced; and when the flush that completes the log
finishes, the texts it and the flushes before it delivered, joined, have exactly the bytes
written before it took the buffer. -/
theorem whole_characters_arrive_unchanged {s : LogRun} (hs : s.StreamWrites) :
    (∀ c ∈ s.delivered, Text.encode (Text.decodeLossy c.data) = c.data) ∧
    ∀ f s', s.flush = some f → f.complete = true → LogStep s .finish s' →
      Text.encode (String.join (s'.delivered.map fun c => Text.decodeLossy c.data)) =
        s.written.take f.mark := by
  have htext : TextChunks s.delivered := (textChunks_append.mp hs.charsCut.sent).1
  refine ⟨fun c hc => (htext c hc).encode_decodeLossy, ?_⟩
  intro f s' hf hc step
  cases step with
  | finish complete mark busy =>
      rw [hf, Option.some.injEq] at busy
      subst busy
      simp only at hc
      subst hc
      -- finishing moves nothing: the delivered texts are those of the chunks delivered
      rw [encode_join_texts htext]
      exact (hs.reachable.accounted.finish_complete hf).1

/-- A character cut by two writes, held back by a take whose send fails, completed by the
second write and delivered by the completing flush: its text arrives as it was written. -/
theorem whole_character_delivered :
    let s : LogRun :=
      ⟨⟨[], none, [97, 195, 169]⟩, some ⟨true, [], 3⟩, [⟨none, [97]⟩, ⟨none, [195, 169]⟩],
        [97, 195, 169]⟩
    (∀ c ∈ s.delivered, Text.encode (Text.decodeLossy c.data) = c.data) ∧
    ∀ f s', s.flush = some f → f.complete = true → LogStep s .finish s' →
      Text.encode (String.join (s'.delivered.map fun c => Text.decodeLossy c.data)) =
        s.written.take f.mark :=
  have htext : IsText [97, 195, 169] := ⟨"aé", by cbv⟩
  whole_characters_arrive_unchanged
    (.step (.step (.step (.step (.step (.step (.step .opened
      (LogStep.write {} [97, 195]) ⟨⟨[169], htext⟩, fun h => absurd isText_nil h⟩)
      (LogStep.take _ false rfl) fun h => by cases h)
      (LogStep.fail _ false ⟨none, [97]⟩ [] 2 rfl) trivial)
      (LogStep.write _ [169]) ⟨⟨[], htext⟩, fun _ first hf hend => by
        simp only [show splitLines [169] = [[169]] by decide, List.head?_cons,
          Option.mem_def, Option.some.injEq] at hf
        subst hf
        cases hend⟩)
      (LogStep.take _ true rfl) fun _ => htext)
      (LogStep.deliver _ true ⟨none, [97]⟩ [⟨none, [195, 169]⟩] 3 rfl) trivial)
      (LogStep.deliver _ true ⟨none, [195, 169]⟩ [] 3 rfl) trivial)

end LogRun

/-! ## A character cut at the end of a marker line -/

/-- **A marker line whose last character is cut by a write sends the character apart.**
The first write ends after the character's first byte, which goes with the start of the
line; the second brings the rest of the character and the line feed, which switches the
section before the piece is stored, so the second byte opens the new section's chunk.
The completing take holds back only the last chunk's unfinished end, and there is none:
both chunks go out, and each half of the character is replaced. -/
theorem split_character_in_marker_line_replaced :
    ((({} : LogBuffer).append (markerBytes ++ [195])).append [169, 10]).take true =
      ([⟨none, markerBytes ++ [195]⟩, ⟨some "é", [169, 10]⟩], ⟨[], some "é", []⟩) ∧
    Text.decodeLossy (markerBytes ++ [195]) = "##[buildq:section] �" ∧
    Text.decodeLossy [169, 10] = "�\n" := by
  have hmarker : markerSection (trackLine (markerBytes ++ [195]) [169, 10]) = some "é" := by
    have hbytes : trackLine (markerBytes ++ [195]) [169, 10] =
        Text.encode (sectionMarker ++ "é\n") := by
      rw [trackLine, if_pos (by rw [markerBytes_eq]; decide), Text.encode_append,
        show Text.encode "é\n" = [195, 169, 10] by cbv, List.append_assoc]
      rfl
    rw [hbytes, markerSection_encode _ (by decide), show Text.trim "é\n" = "é" by decide]
  refine ⟨?_, by rw [markerBytes_eq]; cbv, by cbv⟩
  rw [LogBuffer.append_first_plain (by rw [markerBytes_eq]; decide) (by simp), LogBuffer.append,
    show splitLines [169, 10] = [[169, 10]] by decide, List.foldl_cons, List.foldl_nil,
    LogBuffer.appendPiece_marker_line rfl hmarker (Option.some_ne_none _).symm]
  rfl

end BuildWorker
