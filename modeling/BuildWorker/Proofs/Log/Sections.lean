import BuildWorker.Proofs.Log.Interleaving
import BuildWorker.Proofs.Text.Utf8
/-!
# Which section each byte of a build log belongs to

A line of output that starts with the section marker and names a section switches the
section for the output after it; output before the first such line belongs to no section.
That is the rule (`expectedTags`): it gives, byte by byte, the section of every byte
that is not part of a marker line, and leaves open the bytes of marker lines themselves,
which the log tags as the writes happen to fall.

The log follows the rule for every interleaving of writes, flushes and request outcomes,
however the output is cut into writes (`LogRun.sections_follow_markers`), as long as the
marker lines are at most `maxTrackedLine` bytes long, line feed included.  The proof
carries, along every run, the section and the tracked line of the buffer against the
lines written so far (`LogRun.SectionsTracked`), which each piece of a write keeps
(`BufferTracks.appendPiece`).

The bound cannot be dropped: the log remembers only the first `maxTrackedLine` bytes of
a line, so a longer marker line names a section cut short when it arrives in pieces of
that size, and the output after it is tagged with another name than when it arrives at
once (`long_marker_line_depends_on_writes`).
-/

set_option autoImplicit false

namespace BuildWorker

/-! ## Lines of output -/

/-- One byte read into lines: a line feed completes the line under way. -/
def cutLine (acc : List (List UInt8) × List UInt8) (b : UInt8) :
    List (List UInt8) × List UInt8 :=
  if b == 10 then (acc.1 ++ [acc.2 ++ [b]], []) else (acc.1, acc.2 ++ [b])

/-- Output read into the lines it completes and the line under way. -/
def lineCut (data : List UInt8) : List (List UInt8) × List UInt8 :=
  data.foldl cutLine ([], [])

/-- The pieces output is cut into are its complete lines, then what follows the last
line feed. -/
theorem splitLines_eq_lineCut (data : List UInt8) :
    splitLines data = if (lineCut data).2.isEmpty then (lineCut data).1
      else (lineCut data).1 ++ [(lineCut data).2] := rfl

theorem lineCut_append (data more : List UInt8) :
    lineCut (data ++ more) = more.foldl cutLine (lineCut data) := by
  rw [lineCut, lineCut, List.foldl_append]

/-- Bytes with no line feed extend the line under way. -/
theorem foldl_cutLine_plain {piece : List UInt8} (h : 10 ∉ piece)
    (lines : List (List UInt8)) (current : List UInt8) :
    piece.foldl cutLine (lines, current) = (lines, current ++ piece) := by
  induction piece generalizing current with
  | nil => simp
  | cons b rest ih =>
      have hb : b ≠ 10 := fun heq => h (heq ▸ List.mem_cons_self)
      have hrest : 10 ∉ rest := fun hmem => h (List.mem_cons_of_mem _ hmem)
      rw [List.foldl_cons, cutLine, if_neg (by simpa using hb), ih hrest]
      simp

/-- A line feed after bytes with none completes the line under way. -/
theorem foldl_cutLine_line {body : List UInt8} (h : 10 ∉ body)
    (lines : List (List UInt8)) (current : List UInt8) :
    (body ++ [10]).foldl cutLine (lines, current) = (lines ++ [current ++ body ++ [10]], []) := by
  rw [List.foldl_append, foldl_cutLine_plain h]
  rfl

/-- Reading more output only adds complete lines. -/
theorem foldl_cutLine_lines_grow (more : List UInt8) (acc : List (List UInt8) × List UInt8) :
    acc.1 <+: (more.foldl cutLine acc).1 := by
  induction more generalizing acc with
  | nil => exact List.prefix_refl _
  | cons b rest ih =>
      refine List.IsPrefix.trans ?_ (ih (cutLine acc b))
      unfold cutLine
      split
      · exact List.prefix_append _ _
      · exact List.prefix_refl _

/-- Lines already complete stay in front of those the bytes complete. -/
theorem foldl_cutLine_shift (more : List UInt8) (lines : List (List UInt8)) (current : List UInt8) :
    more.foldl cutLine (lines, current) =
      (lines ++ (more.foldl cutLine ([], current)).1, (more.foldl cutLine ([], current)).2) := by
  induction more generalizing lines current with
  | nil => simp
  | cons b rest ih =>
      simp only [List.foldl_cons, cutLine]
      split
      · rw [ih (lines ++ [current ++ [b]]) [], ih ([] ++ [current ++ [b]]) []]
        simp
      · rw [ih lines (current ++ [b]), ih [] (current ++ [b])]

/-- Bytes with no line feed are one piece. -/
theorem splitLines_plain {data : List UInt8} (h : 10 ∉ data) (hne : data ≠ []) :
    splitLines data = [data] := by
  rw [splitLines_eq_lineCut, lineCut, foldl_cutLine_plain h]
  simp [hne]

/-- A line at the front is the first piece. -/
theorem splitLines_line {body : List UInt8} (h : 10 ∉ body) (rest : List UInt8) :
    splitLines (body ++ [10] ++ rest) = (body ++ [10]) :: splitLines rest := by
  rw [splitLines_eq_lineCut, splitLines_eq_lineCut, lineCut_append, lineCut,
    foldl_cutLine_line h, foldl_cutLine_shift, lineCut]
  split <;> simp

/-- The pieces `splitLines` cuts are lines that end in their only line feed, and, last,
bytes with no line feed. -/
def IsLinePiece (piece : List UInt8) : Prop :=
  10 ∉ piece ∨ ∃ body, piece = body ++ [10] ∧ 10 ∉ body

theorem isLinePiece_of_mem_fold (data : List UInt8) (pieces : List (List UInt8))
    (current : List UInt8) (hpieces : ∀ p ∈ pieces, IsLinePiece p) (hcurrent : 10 ∉ current) :
    (∀ p ∈ (data.foldl cutLine (pieces, current)).1, IsLinePiece p) ∧
      10 ∉ (data.foldl cutLine (pieces, current)).2 := by
  induction data generalizing pieces current with
  | nil => exact ⟨hpieces, hcurrent⟩
  | cons b rest ih =>
      rw [List.foldl_cons, cutLine]
      split
      next hb =>
        refine ih _ _ ?_ (by simp)
        intro p hp
        rcases List.mem_append.mp hp with hp | hp
        · exact hpieces p hp
        · rw [List.mem_singleton.mp hp, beq_iff_eq.mp hb]
          exact .inr ⟨current, rfl, hcurrent⟩
      next hb =>
        refine ih _ _ hpieces ?_
        simp only [List.mem_append, List.mem_singleton, not_or]
        exact ⟨hcurrent, fun heq => hb (by simp [heq])⟩

/-- **Every piece `splitLines` cuts is a line piece.** -/
theorem isLinePiece_of_mem_splitLines {data piece : List UInt8} (h : piece ∈ splitLines data) :
    IsLinePiece piece := by
  obtain ⟨hlines, hcurrent⟩ := isLinePiece_of_mem_fold data [] [] (by simp) (by simp)
  rw [splitLines_eq_lineCut] at h
  split at h
  · exact hlines piece h
  · rcases List.mem_append.mp h with h | h
    · exact hlines piece h
    · exact .inl (List.mem_singleton.mp h ▸ hcurrent)

/-! ## The rule -/

/-- The bytes a marker line starts with. -/
def markerBytes : List UInt8 := Text.encode sectionMarker

/-- The section current after a line: the one it names if it is a marker line, else the
one before. -/
def sectionAfterLine (sectionName : Option String) (line : List UInt8) : Option String :=
  (markerSection line).or sectionName

/-- The section current after lines, from the one before them. -/
def sectionAfterLines (sectionName : Option String) (lines : List (List UInt8)) :
    Option String :=
  lines.foldl sectionAfterLine sectionName

/-- What the rule says of the bytes of one line under a section: a marker line's own
bytes are left open (`none`), any other byte belongs to the section. -/
def lineTags (sectionName : Option String) (line : List UInt8) : List (Option (Option String)) :=
  if (markerSection line).isSome then List.replicate line.length none
  else List.replicate line.length (some sectionName)

/-- What the rule says of the bytes of successive lines. -/
def linesTags : Option String → List (List UInt8) → List (Option (Option String))
  | _, [] => []
  | sectionName, line :: rest =>
      lineTags sectionName line ++ linesTags (sectionAfterLine sectionName line) rest

/-- **The section of each byte of a log's output, by the rule**: the one named by the last
marker line before it, none before the first; open for the bytes of marker lines. -/
def expectedTags (data : List UInt8) : List (Option (Option String)) :=
  linesTags none (splitLines data)

/-- The section each byte of a list of chunks is tagged with, in order. -/
def chunkTags (cs : List Chunk) : List (Option String) :=
  cs.flatMap fun c => List.replicate c.data.length c.sectionName

/-- Tags meet what the rule says: byte by byte, the tag is the one the rule gives where
it gives one. -/
def TagsAgree (actual : List (Option String)) (expected : List (Option (Option String))) :
    Prop :=
  List.Forall₂ (fun a e => ∀ t ∈ e, a = t) actual expected

theorem linesTags_append (sectionName : Option String) (lines : List (List UInt8))
    (line : List UInt8) :
    linesTags sectionName (lines ++ [line]) =
      linesTags sectionName lines ++ lineTags (sectionAfterLines sectionName lines) line := by
  induction lines generalizing sectionName with
  | nil => simp [linesTags, sectionAfterLines]
  | cons first rest ih =>
      simp only [List.cons_append, linesTags, ih, sectionAfterLines, List.foldl_cons,
        List.append_assoc]

@[simp] theorem chunkTags_nil : chunkTags [] = [] := rfl

@[simp] theorem chunkTags_cons (c : Chunk) (cs : List Chunk) :
    chunkTags (c :: cs) = List.replicate c.data.length c.sectionName ++ chunkTags cs := rfl

@[simp] theorem chunkTags_append (cs ds : List Chunk) :
    chunkTags (cs ++ ds) = chunkTags cs ++ chunkTags ds := by
  simp [chunkTags]

/-- Bytes tagged with a section agree with any rule that gives them that section or
leaves them open. -/
theorem tagsAgree_replicate_lineTags (sectionName : Option String) (line : List UInt8) :
    TagsAgree (List.replicate line.length sectionName) (lineTags sectionName line) := by
  unfold lineTags TagsAgree
  split
  · exact List.forall₂_iff_get.mpr ⟨by simp, fun i _ _ => by simp⟩
  · exact List.forall₂_iff_get.mpr ⟨by simp, fun i _ _ => by simp⟩

/-- A marker line's bytes agree with the rule whatever they are tagged with. -/
theorem tagsAgree_markerLine {tags : List (Option String)} {sectionName : Option String}
    {line : List UInt8} (hmarker : (markerSection line).isSome = true)
    (hlen : tags.length = line.length) :
    TagsAgree tags (lineTags sectionName line) := by
  unfold lineTags TagsAgree
  rw [if_pos hmarker]
  exact List.forall₂_iff_get.mpr ⟨by simp [hlen], fun i _ _ => by simp⟩

/-! ## What the buffer does with tags -/

/-- The bytes of chunks with the section each is tagged with, in order. -/
def chunkEntries (cs : List Chunk) : List (Option String × UInt8) :=
  cs.flatMap fun c => c.data.map (c.sectionName, ·)

@[simp] theorem chunkEntries_nil : chunkEntries [] = [] := rfl

@[simp] theorem chunkEntries_cons (c : Chunk) (cs : List Chunk) :
    chunkEntries (c :: cs) = c.data.map (c.sectionName, ·) ++ chunkEntries cs := rfl

@[simp] theorem chunkEntries_append (cs ds : List Chunk) :
    chunkEntries (cs ++ ds) = chunkEntries cs ++ chunkEntries ds := by
  simp [chunkEntries]

theorem chunkTags_eq_map (cs : List Chunk) : chunkTags cs = (chunkEntries cs).map Prod.fst := by
  induction cs with
  | nil => rfl
  | cons c rest ih => simp [ih, Function.comp_def, List.map_const']

/-- The line as the buffer tracks it after a piece: extended while it is short. -/
def trackLine (line piece : List UInt8) : List UInt8 :=
  if line.length < maxTrackedLine then line ++ piece else line

namespace LogBuffer

theorem push_tags (buf : LogBuffer) (piece : List UInt8) :
    chunkTags (buf.push piece).chunks =
      chunkTags buf.chunks ++ List.replicate piece.length buf.sectionName := by
  unfold push
  split
  next last hlast =>
    obtain ⟨ys, hys⟩ := List.getLast?_eq_some_iff.mp hlast
    split
    next hsame =>
      rw [beq_iff_eq] at hsame
      simp [hys, hsame]
    next => simp [hys]
  next hnone =>
    simp [List.getLast?_eq_none_iff.mp hnone]

@[simp] theorem push_sectionName (buf : LogBuffer) (piece : List UInt8) :
    (buf.push piece).sectionName = buf.sectionName := by
  unfold push
  split
  · split <;> rfl
  · rfl

@[simp] theorem push_line (buf : LogBuffer) (piece : List UInt8) :
    (buf.push piece).line = buf.line := by
  unfold push
  split
  · split <;> rfl
  · rfl

/-- A piece of the last chunk's section joins it. -/
theorem push_same_section {cs : List Chunk} {last : Chunk} {sectionName : Option String}
    {line : List UInt8} (hsame : last.sectionName = sectionName) (piece : List UInt8) :
    (⟨cs ++ [last], sectionName, line⟩ : LogBuffer).push piece =
      ⟨cs ++ [⟨last.sectionName, last.data ++ piece⟩], sectionName, line⟩ := by
  simp [push, hsame]

/-- A piece of another section starts a chunk. -/
theorem push_new_section {cs : List Chunk} {last : Chunk} {sectionName : Option String}
    {line : List UInt8} (hnew : last.sectionName ≠ sectionName) (piece : List UInt8) :
    (⟨cs ++ [last], sectionName, line⟩ : LogBuffer).push piece =
      ⟨cs ++ [last] ++ [⟨sectionName, piece⟩], sectionName, line⟩ := by
  simp [push, hnew]

/-- Adding a piece: a piece that ends a line switches the section by the tracked line,
any other extends the tracked line; then the piece is stored. -/
theorem appendPiece_eq (buf : LogBuffer) (piece : List UInt8) :
    buf.appendPiece piece =
      (if piece.getLast? = some 10 then
        { buf with line := [],
                   sectionName := sectionAfterLine buf.sectionName (trackLine buf.line piece) }
      else { buf with line := trackLine buf.line piece }).push piece := by
  unfold appendPiece sectionAfterLine trackLine
  by_cases h : piece.getLast? = some 10
  · simp only [h, beq_self_eq_true, if_true]
    congr 2
    split <;> simp_all
  · simp only [beq_iff_eq, h, if_false]

theorem appendPiece_tags (buf : LogBuffer) (piece : List UInt8) :
    chunkTags (buf.appendPiece piece).chunks =
      chunkTags buf.chunks ++ List.replicate piece.length (buf.appendPiece piece).sectionName := by
  rw [appendPiece_eq, push_tags, push_sectionName]
  split <;> rfl

/-- Taking splits the tagged bytes: those taken, then those left. -/
theorem take_entries (buf : LogBuffer) (complete : Bool) :
    chunkEntries (buf.take complete).1 ++ chunkEntries (buf.take complete).2.chunks =
      chunkEntries buf.chunks := by
  unfold take
  dsimp only
  split
  · simp
  · split
    next hnone => simp
    next last hlast =>
      obtain ⟨ys, hys⟩ := List.getLast?_eq_some_iff.mp hlast
      -- the last chunk is cut where its unfinished character starts, under its own section
      have hcut := List.take_append_drop (last.data.length - Text.incompleteTail last.data)
        last.data
      split
      · simp
      · split
        next hkept =>
          rw [List.isEmpty_iff.mp hkept, List.nil_append] at hcut
          simp [hys, hcut]
        next =>
          simp only [hys, List.dropLast_concat, chunkEntries_append, chunkEntries_cons,
            chunkEntries_nil, List.append_nil, List.nil_append, List.append_assoc,
            ← List.map_append, hcut]

theorem take_tags (buf : LogBuffer) (complete : Bool) :
    chunkTags (buf.take complete).1 ++ chunkTags (buf.take complete).2.chunks =
      chunkTags buf.chunks := by
  rw [chunkTags_eq_map, chunkTags_eq_map, chunkTags_eq_map, ← List.map_append, take_entries]

@[simp] theorem take_sectionName (buf : LogBuffer) (complete : Bool) :
    (buf.take complete).2.sectionName = buf.sectionName := by
  unfold take
  dsimp only
  split
  · rfl
  · split
    · rfl
    · split <;> rfl

@[simp] theorem take_line (buf : LogBuffer) (complete : Bool) :
    (buf.take complete).2.line = buf.line := by
  unfold take
  dsimp only
  split
  · rfl
  · split
    · rfl
    · split <;> rfl

theorem requeue_tags (buf : LogBuffer) (unsent : List Chunk) :
    chunkTags (buf.requeue unsent).chunks = chunkTags unsent ++ chunkTags buf.chunks := by
  simp [requeue]

end LogBuffer

/-! ## Recognising marker lines -/

/-- A line that names a section starts with the marker's bytes. -/
theorem markerBytes_prefix_of_markerSection {line : List UInt8} {name : String}
    (h : markerSection line = some name) : markerBytes <+: line := by
  unfold markerSection at h
  cases htext : String.fromUTF8? (ByteArray.mk line.toArray) with
  | none => simp [htext] at h
  | some text =>
      by_cases hstart : text.startsWith sectionMarker = true
      · rw [← Text.encode_of_fromUTF8? htext]
        exact Text.encode_prefix (String.startsWith_string_iff.mp hstart)
      · rw [String.startsWith_string_iff] at hstart
        simp [htext, hstart, failure] at h

theorem markerSection_eq_none {line : List UInt8} (h : ¬ markerBytes <+: line) :
    markerSection line = none := by
  cases hmarker : markerSection line with
  | none => rfl
  | some name => exact absurd (markerBytes_prefix_of_markerSection hmarker) h

theorem markerBytes_eq : markerBytes =
    [35, 35, 91, 98, 117, 105, 108, 100, 113, 58, 115, 101, 99, 116, 105, 111, 110, 93, 32] := by
  cbv

theorem trimBlank_replicate {c : Char} (hc : Text.isBlank c = false) (n : Nat) :
    Text.trimBlank (List.replicate n c) = List.replicate n c := by
  have hkeep : ∀ m, (List.replicate m c).dropWhile Text.isBlank = List.replicate m c := by
    intro m
    cases m with
    | zero => rfl
    | succ m => simp [List.replicate_succ, hc]
  rw [Text.trimBlank, hkeep, List.reverse_replicate, hkeep, List.reverse_replicate]

/-- A blank at the end goes with the trim. -/
theorem trimBlank_append_blank {b : Char} (hb : Text.isBlank b = true) (cs : List Char) :
    Text.trimBlank (cs ++ [b]) = Text.trimBlank cs := by
  unfold Text.trimBlank
  rw [List.dropWhile_append]
  split
  next hall =>
    rw [List.isEmpty_iff.mp hall]
    simp [hb]
  next => simp [hb]

/-- **A marker line names its trimmed text**, when that is not blank. -/
theorem markerSection_encode (name : String) (h : Text.trim name ≠ "") :
    markerSection (Text.encode (sectionMarker ++ name)) = some (Text.trim name) := by
  have hdrop : (sectionMarker.toList ++ name.toList).drop sectionMarker.length = name.toList := by
    rw [← String.length_toList, List.drop_left]
  simp [markerSection, Text.fromUTF8?_encode, hdrop, h, guard]

/-- The line the buffer tracks against the line under way: the line itself, or a
beginning of it long enough that tracking has stopped. -/
def Tracks (tracked line : List UInt8) : Prop :=
  tracked <+: line ∧ (tracked = line ∨ maxTrackedLine ≤ tracked.length)

theorem tracks_nil : Tracks [] [] := ⟨List.prefix_refl _, .inl rfl⟩

/-- Tracking follows a piece of the line. -/
theorem Tracks.trackLine {tracked line : List UInt8} (h : Tracks tracked line)
    (piece : List UInt8) : Tracks (trackLine tracked piece) (line ++ piece) := by
  obtain ⟨hpre, heq | hlong⟩ := h
  · subst heq
    unfold BuildWorker.trackLine
    split
    · exact ⟨List.prefix_refl _, .inl rfl⟩
    · exact ⟨List.prefix_append _ _, .inr (by omega)⟩
  · unfold BuildWorker.trackLine
    rw [if_neg (by omega)]
    exact ⟨hpre.trans (List.prefix_append _ _), .inr hlong⟩

/-- **A tracked line names the section its line names**, when that line is short enough
to be tracked whole if it starts with the marker. -/
theorem markerSection_of_tracks {tracked line : List UInt8} (h : Tracks tracked line)
    (hshort : markerBytes <+: line → line.length ≤ maxTrackedLine) :
    markerSection tracked = markerSection line := by
  obtain ⟨hpre, heq | hlong⟩ := h
  · rw [heq]
  · by_cases hsame : tracked = line
    · rw [hsame]
    -- tracking stopped before the end, so the line is longer than a marker line may be
    have hlt : tracked.length < line.length :=
      Nat.lt_of_le_of_ne hpre.length_le fun hlen => hsame (hpre.eq_of_length hlen)
    have hline : ¬ markerBytes <+: line := fun hm => by
      have := hshort hm
      omega
    rw [markerSection_eq_none (fun hm => hline (hm.trans hpre)), markerSection_eq_none hline]

/-! ## The buffer follows the rule -/

/-- Lines that start with the marker are short enough to be tracked whole. -/
def ShortMarkerLines (lines : List (List UInt8)) : Prop :=
  ∀ line ∈ lines, markerBytes <+: line → line.length ≤ maxTrackedLine

theorem ShortMarkerLines.mono {lines lines' : List (List UInt8)}
    (h : ShortMarkerLines lines') (hpre : lines <+: lines') : ShortMarkerLines lines :=
  fun line hline => h line (hpre.subset hline)

/-- The buffer against the output read so far (`cut`: the complete lines and the line
under way), with `before` the tags of the chunks already out of the buffer: the
buffer's section is the one the complete lines leave, its tracked line tracks the line
under way, and the bytes of complete lines are tagged by the rule, those of the line under
way with the current section. -/
structure BufferTracks (before : List (Option String)) (buf : LogBuffer)
    (cut : List (List UInt8) × List UInt8) : Prop where
  section_eq : buf.sectionName = sectionAfterLines none cut.1
  tracks : Tracks buf.line cut.2
  tags : ∃ done, before ++ chunkTags buf.chunks =
      done ++ List.replicate cut.2.length buf.sectionName ∧ TagsAgree done (linesTags none cut.1)

theorem bufferTracks_empty : BufferTracks [] {} ([], []) where
  section_eq := rfl
  tracks := tracks_nil
  tags := ⟨[], rfl, List.Forall₂.nil⟩

/-- Moving chunks between the buffer and the outside, in order, keeps the buffer tracking. -/
theorem BufferTracks.congr {before before' : List (Option String)} {buf buf' : LogBuffer}
    {cut : List (List UInt8) × List UInt8} (h : BufferTracks before buf cut)
    (htags : before' ++ chunkTags buf'.chunks = before ++ chunkTags buf.chunks)
    (hsection : buf'.sectionName = buf.sectionName) (hline : buf'.line = buf.line) :
    BufferTracks before' buf' cut where
  section_eq := hsection.trans h.section_eq
  tracks := hline ▸ h.tracks
  tags := by
    obtain ⟨done, hdone, hagree⟩ := h.tags
    exact ⟨done, by rw [htags, hdone, hsection], hagree⟩

/-- **One piece of a write keeps the buffer tracking**: a piece within a line extends the
line under way, and a piece that ends a line switches the section exactly as the rule
does, the line being short enough to be tracked whole if it is a marker line. -/
theorem BufferTracks.appendPiece {before : List (Option String)} {buf : LogBuffer}
    {lines : List (List UInt8)} {current piece : List UInt8}
    (h : BufferTracks before buf (lines, current)) (hpiece : IsLinePiece piece)
    (hshort : ShortMarkerLines (piece.foldl cutLine (lines, current)).1) :
    BufferTracks before (buf.appendPiece piece) (piece.foldl cutLine (lines, current)) := by
  obtain ⟨done, hdone, hagree⟩ := h.tags
  have htracked := h.tracks.trackLine piece
  rcases hpiece with hplain | ⟨body, rfl, hbody⟩
  · -- the piece stays within the line under way
    have hlast : piece.getLast? ≠ some 10 := fun hl => hplain (List.mem_of_getLast? hl)
    rw [foldl_cutLine_plain hplain]
    refine ⟨?_, ?_, ?_⟩
    · simpa [LogBuffer.appendPiece_eq, hlast] using h.section_eq
    · simpa [LogBuffer.appendPiece_eq, hlast] using htracked
    · refine ⟨done, ?_, hagree⟩
      simp only [LogBuffer.appendPiece_tags, ← List.append_assoc, hdone]
      simp [LogBuffer.appendPiece_eq, hlast, List.replicate_append_replicate]
  · -- the piece ends the line: the tracked line decides the section as the whole line would
    have hlast : (body ++ [10]).getLast? = some 10 := by simp
    rw [foldl_cutLine_line hbody] at hshort ⊢
    have hsame : markerSection (trackLine buf.line (body ++ [10])) =
        markerSection (current ++ body ++ [10]) := by
      rw [List.append_assoc]
      exact markerSection_of_tracks htracked (hshort _ (by simp))
    have hsection : (buf.appendPiece (body ++ [10])).sectionName =
        sectionAfterLine buf.sectionName (current ++ body ++ [10]) := by
      simp [LogBuffer.appendPiece_eq, hlast, sectionAfterLine, hsame]
    refine ⟨?_, ?_, ?_⟩
    · rw [hsection, h.section_eq]
      simp [sectionAfterLines, List.foldl_append]
    · simpa [LogBuffer.appendPiece_eq, hlast] using tracks_nil
    · refine ⟨done ++ (List.replicate current.length buf.sectionName ++
          List.replicate (body ++ [10]).length (buf.appendPiece (body ++ [10])).sectionName), ?_, ?_⟩
      · simp only [LogBuffer.appendPiece_tags, ← List.append_assoc, hdone]
        simp
      · rw [linesTags_append, ← h.section_eq]
        refine List.rel_append hagree ?_
        -- a marker line's own bytes are open; any other line keeps the section
        by_cases hmarker : (markerSection (current ++ body ++ [10])).isSome = true
        · exact tagsAgree_markerLine hmarker (by simp)
        · have hnone : markerSection (current ++ body ++ [10]) = none := by
            simpa using hmarker
          rw [hsection, sectionAfterLine, hnone, Option.none_or, List.replicate_append_replicate]
          have hlen : current.length + (body ++ [10]).length =
              (current ++ body ++ [10]).length := by simp
          rw [hlen]
          exact tagsAgree_replicate_lineTags _ _

/-- The pieces of a write keep the buffer tracking, one after another. -/
theorem BufferTracks.foldl_appendPiece (pieces : List (List UInt8)) {before : List (Option String)}
    {buf : LogBuffer} {cut : List (List UInt8) × List UInt8} (h : BufferTracks before buf cut)
    (hpieces : ∀ p ∈ pieces, IsLinePiece p)
    (hshort : ShortMarkerLines (pieces.flatten.foldl cutLine cut).1) :
    BufferTracks before (pieces.foldl LogBuffer.appendPiece buf) (pieces.flatten.foldl cutLine cut) := by
  induction pieces generalizing buf cut with
  | nil => exact h
  | cons piece rest ih =>
      obtain ⟨lines, current⟩ := cut
      rw [List.flatten_cons, List.foldl_append] at hshort ⊢
      have hfirst := h.appendPiece (hpieces piece List.mem_cons_self)
        (hshort.mono (foldl_cutLine_lines_grow _ _))
      exact ih hfirst (fun p hp => hpieces p (List.mem_cons_of_mem _ hp)) hshort

/-- **A write keeps the buffer tracking**, however the written bytes fall into lines. -/
theorem BufferTracks.append {before : List (Option String)} {buf : LogBuffer}
    {cut : List (List UInt8) × List UInt8} (h : BufferTracks before buf cut) (data : List UInt8)
    (hshort : ShortMarkerLines (data.foldl cutLine cut).1) :
    BufferTracks before (buf.append data) (data.foldl cutLine cut) := by
  have hpieces := BufferTracks.foldl_appendPiece (splitLines data) h
    (fun _ hp => isLinePiece_of_mem_splitLines hp)
  rw [splitLines_flatten] at hpieces
  exact hpieces hshort

/-! ## Every interleaving follows the rule -/

/-- A step only ever completes more lines. -/
theorem LogStep.lines_grow {s s' : LogRun} {e : LogEvent} (step : LogStep s e s') :
    (lineCut s.written).1 <+: (lineCut s'.written).1 := by
  cases step with
  | write data =>
      rw [lineCut_append]
      exact foldl_cutLine_lines_grow _ _
  | _ => exact List.prefix_refl _

namespace LogRun

/-- The chunks the flush under way took and has not sent yet. -/
def pending (s : LogRun) : List Chunk :=
  match s.flush with
  | some f => f.pending
  | none => []

/-- The buffer tracks everything written, behind the chunks delivered and in flight. -/
def SectionsTracked (s : LogRun) : Prop :=
  BufferTracks (chunkTags (s.delivered ++ s.pending)) s.buffer (lineCut s.written)

/-- **Every step keeps the buffer tracking the output**: a write by the piece lemma, and
the flush's steps only move chunks between the buffer and the outside, in order. -/
theorem SectionsTracked.step {s s' : LogRun} {e : LogEvent} (hs : s.SectionsTracked)
    (step : LogStep s e s') (hshort : ShortMarkerLines (lineCut s'.written).1) :
    s'.SectionsTracked := by
  cases step with
  | write data =>
      show BufferTracks _ (s.buffer.append data) (lineCut (s.written ++ data))
      rw [lineCut_append] at hshort ⊢
      exact BufferTracks.append hs data hshort
  | take complete idle =>
      refine BufferTracks.congr hs ?_ (LogBuffer.take_sectionName _ _) (LogBuffer.take_line _ _)
      simp [pending, idle, LogBuffer.take_tags]
  | deliver complete c rest mark busy =>
      refine BufferTracks.congr hs ?_ rfl rfl
      simp [pending, busy]
  | fail complete c rest mark busy =>
      refine BufferTracks.congr hs ?_ rfl rfl
      simp [pending, busy, LogBuffer.requeue_tags]
  | finish complete mark busy =>
      refine BufferTracks.congr hs ?_ rfl rfl
      simp [pending, busy]

/-- Along any interleaving whose marker lines are short, the buffer tracks the output;
the lines complete so far are a prefix of those of the end state, so each state on the
way meets the hypothesis too. -/
theorem Reachable.sectionsTracked {s : LogRun} (hs : s.Reachable)
    (hshort : ShortMarkerLines (lineCut s.written).1) : s.SectionsTracked := by
  induction hs with
  | opened => exact bufferTracks_empty
  | step _ step ih => exact (ih (hshort.mono step.lines_grow)).step step hshort

/-- **Sections follow the marker lines, however output is split into writes.**  In every
state of every interleaving of writes, flushes and request outcomes, the chunks delivered,
in flight and buffered are tagged byte by byte as the rule reads the bytes written: the
section of the last marker line before them, none before the first, provided every line
that starts with the marker fits in the tracked prefix of a line.  The rule reads only the
bytes, so two runs that wrote the same bytes tag them alike outside the marker lines. -/
theorem sections_follow_markers {s : LogRun} (hs : s.Reachable)
    (hshort : ∀ line ∈ splitLines s.written, markerBytes <+: line → line.length ≤ maxTrackedLine) :
    TagsAgree (chunkTags (s.delivered ++ s.pending ++ s.buffer.chunks)) (expectedTags s.written) := by
  have hlines : ShortMarkerLines (lineCut s.written).1 := fun line hline =>
    hshort line (by rw [splitLines_eq_lineCut]; split <;> simp [hline])
  have htracked : BufferTracks _ s.buffer (lineCut s.written) := hs.sectionsTracked hlines
  obtain ⟨done, hdone, hagree⟩ := htracked.tags
  rw [chunkTags_append, hdone, expectedTags, splitLines_eq_lineCut]
  split
  next hempty =>
    rw [List.isEmpty_iff.mp hempty, List.length_nil, List.replicate_zero, List.append_nil]
    exact hagree
  next =>
    -- the line under way is tagged with the section its complete lines leave
    rw [linesTags_append, ← htracked.section_eq]
    exact List.rel_append hagree (tagsAgree_replicate_lineTags _ _)

/-- A short run whose one marker line switches the section: the bytes after the line are
tagged with its name. -/
theorem sections_follow_markers_after_marker_line :
    let s : LogRun := { buffer := ({} : LogBuffer).append (markerBytes ++ [97, 10, 104, 105, 10]),
                        written := markerBytes ++ [97, 10, 104, 105, 10] }
    TagsAgree (chunkTags (s.delivered ++ s.pending ++ s.buffer.chunks)) (expectedTags s.written) :=
  sections_follow_markers (.step .opened (LogStep.write {} _)) fun line hline _ => by
    have hall : ∀ l ∈ splitLines (markerBytes ++ [97, 10, 104, 105, 10]),
        l.length ≤ maxTrackedLine := by
      rw [markerBytes_eq]
      decide
    exact hall line hline

end LogRun

/-! ## A marker line cut by a write -/

theorem trim_replicate {c : Char} (hc : Text.isBlank c = false) (n : Nat) :
    Text.trim (String.ofList (List.replicate n c)) = String.ofList (List.replicate n c) := by
  rw [Text.trim, String.toList_ofList, trimBlank_replicate hc]

theorem ofList_replicate_ne_empty {n : Nat} (hn : 0 < n) (c : Char) :
    String.ofList (List.replicate n c) ≠ "" := fun h => by
  have hlist := congrArg String.toList h
  rw [String.toList_ofList, String.toList_empty, List.replicate_eq_nil_iff] at hlist
  omega

/-- The marker and a run of letters names the run. -/
theorem markerSection_letters {n : Nat} (hn : 0 < n) :
    markerSection (markerBytes ++ List.replicate n 120) =
      some (String.ofList (List.replicate n 'x')) := by
  have hbytes : markerBytes ++ List.replicate n 120 =
      Text.encode (sectionMarker ++ String.ofList (List.replicate n 'x')) := by
    rw [Text.encode_append, Text.encode_replicate_ascii (by decide)]
    rfl
  have hname := trim_replicate (show Text.isBlank 'x' = false by decide) n
  rw [hbytes, markerSection_encode _ (by rw [hname]; exact ofList_replicate_ne_empty hn _), hname]

/-- The same, as a whole line: the line feed is trimmed off the name. -/
theorem markerSection_letters_line {n : Nat} (hn : 0 < n) :
    markerSection (markerBytes ++ List.replicate n 120 ++ [10]) =
      some (String.ofList (List.replicate n 'x')) := by
  have hbytes : markerBytes ++ List.replicate n 120 ++ [10] =
      Text.encode (sectionMarker ++ (String.ofList (List.replicate n 'x') ++ "\n")) := by
    have hnl : Text.encode "\n" = [10] := by cbv
    rw [Text.encode_append, Text.encode_append, Text.encode_replicate_ascii (by decide), hnl,
      List.append_assoc]
    rfl
  have hname : Text.trim (String.ofList (List.replicate n 'x') ++ "\n") =
      String.ofList (List.replicate n 'x') := by
    have hchars : (String.ofList (List.replicate n 'x') ++ "\n").toList =
        List.replicate n 'x' ++ ['\n'] := by
      rw [String.toList_append, String.toList_ofList]
      rfl
    rw [Text.trim, hchars, trimBlank_append_blank (by decide), trimBlank_replicate (by decide)]
  rw [hbytes, markerSection_encode _ (by rw [hname]; exact ofList_replicate_ne_empty hn _), hname]

/-- The first output, when it holds no line feed, is one untagged chunk, and the tracked
line. -/
theorem LogBuffer.append_first_plain {data : List UInt8} (h : 10 ∉ data) (hne : data ≠ []) :
    ({} : LogBuffer).append data = ⟨[] ++ [⟨none, data⟩], none, data⟩ := by
  have hlast : data.getLast? ≠ some 10 := fun hl => h (List.mem_of_getLast? hl)
  rw [LogBuffer.append, splitLines_plain h hne, List.foldl_cons, List.foldl_nil,
    LogBuffer.appendPiece_eq, if_neg hlast]
  rfl

/-- A line that is no marker line, read from the start of a line, joins the chunk of the
current section. -/
theorem LogBuffer.appendPiece_ordinary_line {cs : List Chunk} {last : Chunk}
    {sectionName : Option String} {piece : List UInt8} (hsame : last.sectionName = sectionName)
    (hend : piece.getLast? = some 10) (hordinary : markerSection piece = none) :
    (⟨cs ++ [last], sectionName, []⟩ : LogBuffer).appendPiece piece =
      ⟨cs ++ [⟨last.sectionName, last.data ++ piece⟩], sectionName, []⟩ := by
  have hkeep : sectionAfterLine sectionName (trackLine [] piece) = sectionName := by
    rw [sectionAfterLine, show trackLine [] piece = piece from rfl, hordinary, Option.none_or]
  rw [LogBuffer.appendPiece_eq, if_pos hend]
  simp only [hkeep]
  exact LogBuffer.push_same_section hsame _

/-- A piece that ends a marker line switches the section before it is stored, so it opens
a chunk of the new section when the last chunk has another. -/
theorem LogBuffer.appendPiece_marker_line {cs : List Chunk} {last : Chunk}
    {sectionName : Option String} {tracked piece : List UInt8} {name : String}
    (hend : piece.getLast? = some 10) (hmarker : markerSection (trackLine tracked piece) = some name)
    (hnew : last.sectionName ≠ some name) :
    (⟨cs ++ [last], sectionName, tracked⟩ : LogBuffer).appendPiece piece =
      ⟨cs ++ [last] ++ [⟨some name, piece⟩], some name, []⟩ := by
  have hswitch : sectionAfterLine sectionName (trackLine tracked piece) = some name := by
    rw [sectionAfterLine, hmarker, Option.some_or]
  rw [LogBuffer.appendPiece_eq, if_pos hend]
  simp only [hswitch]
  exact LogBuffer.push_new_section hnew _

/-- **A long marker line takes its name from where the writes cut it.**  The same bytes, a
marker line naming 500 letters and then a line `after`, written at once tag `after` with
the 500 letters; written in two, the first of exactly `maxTrackedLine` bytes, they tag
it with the 493 letters tracked before the cut. -/
theorem long_marker_line_depends_on_writes :
    ((({} : LogBuffer).append (markerBytes ++ List.replicate 493 120)).append
        (List.replicate 7 120 ++ [10] ++ [97, 102, 116, 101, 114, 10])).chunks =
      [⟨none, markerBytes ++ List.replicate 493 120⟩,
        ⟨some (String.ofList (List.replicate 493 'x')),
          List.replicate 7 120 ++ [10] ++ [97, 102, 116, 101, 114, 10]⟩] ∧
    (({} : LogBuffer).append ((markerBytes ++ List.replicate 493 120) ++
        (List.replicate 7 120 ++ [10] ++ [97, 102, 116, 101, 114, 10]))).chunks =
      [⟨some (String.ofList (List.replicate 500 'x')), (markerBytes ++ List.replicate 493 120) ++
        (List.replicate 7 120 ++ [10] ++ [97, 102, 116, 101, 114, 10])⟩] := by
  have hafter : markerSection [97, 102, 116, 101, 114, 10] = none :=
    markerSection_eq_none fun h => by
      have hlen := h.length_le
      rw [markerBytes_eq] at hlen
      simp at hlen
  have hafter_lines : splitLines [97, 102, 116, 101, 114, 10] = [[97, 102, 116, 101, 114, 10]] := by
    decide
  have hline_end : ∀ body : List UInt8, (body ++ [10]).getLast? = some 10 := fun body => by
    simp
  constructor
  · -- the second write ends a line whose tracking stopped at the cut
    have hfirst : (10 : UInt8) ∉ markerBytes ++ List.replicate 493 120 := by
      rw [List.mem_append, List.mem_replicate, markerBytes_eq]
      decide
    have hlen : (markerBytes ++ List.replicate 493 120).length = maxTrackedLine := by
      rw [List.length_append, List.length_replicate, markerBytes_eq]
      rfl
    have hw2 : splitLines (List.replicate 7 120 ++ [10] ++ [97, 102, 116, 101, 114, 10]) =
        [List.replicate 7 120 ++ [10], [97, 102, 116, 101, 114, 10]] := by
      rw [splitLines_line (by rw [List.mem_replicate]; decide), hafter_lines]
    have hcut : markerSection (trackLine (markerBytes ++ List.replicate 493 120)
        (List.replicate 7 120 ++ [10])) = some (String.ofList (List.replicate 493 'x')) := by
      rw [trackLine, if_neg (by rw [hlen]; exact Nat.lt_irrefl _)]
      exact markerSection_letters (by decide)
    rw [LogBuffer.append_first_plain hfirst (by rw [markerBytes_eq]; exact List.cons_ne_nil _ _),
      LogBuffer.append, hw2, List.foldl_cons, List.foldl_cons, List.foldl_nil,
      LogBuffer.appendPiece_marker_line (hline_end _) hcut (Option.some_ne_none _).symm,
      LogBuffer.appendPiece_ordinary_line rfl rfl hafter]
    rfl
  · -- one write completes the marker line before its name is read
    have hline : markerBytes ++ List.replicate 493 120 ++ List.replicate 7 120 ++ [10] =
        markerBytes ++ List.replicate 500 120 ++ [10] := by
      rw [List.append_assoc markerBytes, List.replicate_append_replicate]
    have hw : splitLines ((markerBytes ++ List.replicate 493 120) ++
        (List.replicate 7 120 ++ [10] ++ [97, 102, 116, 101, 114, 10])) =
        [markerBytes ++ List.replicate 500 120 ++ [10], [97, 102, 116, 101, 114, 10]] := by
      have hbody : (10 : UInt8) ∉ markerBytes ++ List.replicate 500 120 := by
        rw [List.mem_append, List.mem_replicate, markerBytes_eq]
        decide
      rw [← hafter_lines, ← splitLines_line hbody, ← hline]
      simp only [List.append_assoc]
    -- the empty buffer tracks the whole line, so its whole name is read
    have hwhole : ({} : LogBuffer).appendPiece (markerBytes ++ List.replicate 500 120 ++ [10]) =
        ⟨[] ++ [⟨some (String.ofList (List.replicate 500 'x')),
          markerBytes ++ List.replicate 500 120 ++ [10]⟩],
          some (String.ofList (List.replicate 500 'x')), []⟩ := by
      rw [LogBuffer.appendPiece_eq, if_pos (hline_end _)]
      simp only [show trackLine [] (markerBytes ++ List.replicate 500 120 ++ [10]) =
          markerBytes ++ List.replicate 500 120 ++ [10] from rfl, sectionAfterLine,
        markerSection_letters_line (show 0 < 500 by decide), Option.some_or]
      rfl
    rw [LogBuffer.append, hw, List.foldl_cons, List.foldl_cons, List.foldl_nil, hwhole,
      LogBuffer.appendPiece_ordinary_line rfl rfl hafter, ← hline]
    simp only [List.nil_append, List.append_assoc]

end BuildWorker
