import BuildWorker.Server.Http
import BuildWorker.Proofs.Text.Utf8
/-!
# Where a request goes

A request of the worker goes to the server's base URL followed by the path of its
route (`Route.path`): `/build-worker/<user>/<queue>`, then `/<worker>`, `/jobs` and
`/<job>/<action>` as the request needs them, each name percent-encoded as one segment.
The client then reads that URL as the URL standard does (`resolveUrl`): `.` and `..`
segments are applied, and characters a path cannot hold are escaped.

The main statement, `ClientSettings.urlOf_of_plain`, says what that comes to.  When the
base URL is an `http` or `https` URL whose path segments are plain (`PlainSegment`:
characters that stand for themselves, and no dot segment), followed by any number of
slashes, and no name of the request is `.` or `..`, the request goes exactly to the
base path followed by the route's segments
(`Route.segments`), one segment per name, and each name's segment percent-decodes to
the name's bytes (`percentDecode_encodeSegment`).

The condition on the names cannot be dropped.  The queue pattern accepts `.` and `..`
as a user or a queue, and percent-encoding leaves dots alone, so the user `..` takes
the request out of `build-worker` altogether (`dot_user_leaves_route`).
-/

set_option autoImplicit false

namespace BuildWorker.Server

open Text

/-! ## Paths made of segments -/

/-- A path made of segments, each after a `/`. -/
def pathOf (segs : List String) : String :=
  String.join (segs.map ("/" ++ ·))

theorem toList_pathOf (segs : List String) :
    (pathOf segs).toList = segs.flatMap fun s => '/' :: s.toList := by
  induction segs with
  | nil => rfl
  | cons s rest ih =>
      rw [List.flatMap_cons, ← ih]
      simp [pathOf, String.join_cons, String.toList_append]

theorem pathOf_append (xs ys : List String) : pathOf (xs ++ ys) = pathOf xs ++ pathOf ys := by
  simp [pathOf, String.join_append]

/-- The segments of the path of a queue. -/
def queueSegments (q : QueueName) : List String :=
  ["build-worker", encodeSegment q.user, encodeSegment q.queue]

/-- The segments a route's path consists of: the fixed words, and each name encoded
as one segment. -/
def Route.segments : Route → List String
  | .queue q => queueSegments q
  | .worker q w => queueSegments q ++ [encodeSegment w]
  | .jobs q w => queueSegments q ++ [encodeSegment w, "jobs"]
  | .jobAction q w j action => queueSegments q ++ [encodeSegment w, "jobs", encodeSegment j, action]

/-- The names a route carries: the queue's user and name, then the worker and the job
where it has them. -/
def Route.names : Route → List String
  | .queue q => [q.user, q.queue]
  | .worker q w => [q.user, q.queue, w]
  | .jobs q w => [q.user, q.queue, w]
  | .jobAction q w j _ => [q.user, q.queue, w, j]

/-- The path of a route is its segments, in order. -/
theorem Route.path_eq_pathOf (r : Route) : r.path = pathOf r.segments := by
  have hqueue : ("/build-worker/" : String) = "/" ++ ("build-worker" ++ "/") := by decide
  have hjobs : ("/jobs/" : String) = "/" ++ ("jobs" ++ "/") := by decide
  have hjobsEnd : ("/jobs" : String) = "/" ++ "jobs" := by decide
  cases r <;>
    simp only [Route.path, Route.segments, queueSegments, workerPath, queuePath, pathOf,
      List.cons_append, List.nil_append, List.map_cons, List.map_nil, String.join_cons,
      String.join_nil, String.append_empty, hqueue, hjobs, hjobsEnd, String.append_assoc]

/-! ## Percent-decoding -/

/-- The value of a hexadecimal digit, in either case. -/
def hexValue (c : Char) : Option Nat :=
  if 48 ≤ c.toNat ∧ c.toNat ≤ 57 then some (c.toNat - 48)
  else if 65 ≤ c.toNat ∧ c.toNat ≤ 70 then some (c.toNat - 55)
  else if 97 ≤ c.toNat ∧ c.toNat ≤ 102 then some (c.toNat - 87)
  else none

/-- Percent-decoding: `%` and two hexadecimal digits stand for one byte, and every other
character for its UTF-8 bytes. -/
def percentDecode : List Char → List UInt8
  | [] => []
  | '%' :: h :: l :: rest =>
      match hexValue h, hexValue l with
      | some a, some b => UInt8.ofNat (a * 16 + b) :: percentDecode rest
      | _, _ => 37 :: percentDecode (h :: l :: rest)
  | c :: rest => String.utf8EncodeChar c ++ percentDecode rest

theorem percentDecode_cons_of_ne {c : Char} (h : c ≠ '%') (rest : List Char) :
    percentDecode (c :: rest) = String.utf8EncodeChar c ++ percentDecode rest := by
  rw [percentDecode.eq_def]
  split <;> simp_all

theorem hexValue_hexDigit {n : Nat} (h : n < 16) : hexValue (hexDigit n) = some n := by
  unfold hexDigit hexValue
  split
  · have hc : (Char.ofNat (48 + n)).toNat = 48 + n :=
      toNat_ofNat_of_lt (by omega)
    rw [hc, if_pos (by omega)]
    simp
  · have hc : (Char.ofNat (55 + n)).toNat = 55 + n :=
      toNat_ofNat_of_lt (by omega)
    rw [hc, if_neg (by omega), if_pos (by omega)]
    simp

/-- The characters one byte is written as in a segment. -/
def encodeByte (b : UInt8) : List Char :=
  if isUnreserved b then [Char.ofNat b.toNat] else percentByte b

theorem toList_encodeSegment (s : String) :
    (encodeSegment s).toList = (encode s).flatMap encodeByte := by
  simp only [encodeSegment, encode, String.toList_ofList]
  rfl

theorem isUnreserved_lt {b : UInt8} (h : isUnreserved b = true) : b.toNat < 128 ∧ b.toNat ≠ 37 := by
  simp only [isUnreserved, Bool.or_eq_true, Bool.and_eq_true, decide_eq_true_eq, beq_iff_eq,
    UInt8.le_iff_toNat_le] at h
  have hb := UInt8.toNat_lt b
  rcases h with (((((h | h) | h) | h) | h) | h) | h <;> simp_all <;> omega

/-- An unreserved byte stands as the character of the same code. -/
theorem charOfByte_toNat {b : UInt8} (h : b.toNat < 128) : (Char.ofNat b.toNat).toNat = b.toNat :=
  toNat_ofNat_of_lt (by omega)

theorem percentDecode_encodeByte (b : UInt8) (rest : List Char) :
    percentDecode (encodeByte b ++ rest) = b :: percentDecode rest := by
  unfold encodeByte
  split
  next hu =>
    obtain ⟨hlt, hne⟩ := isUnreserved_lt hu
    have hc := charOfByte_toNat hlt
    have hpct : Char.ofNat b.toNat ≠ '%' := by
      intro heq
      rw [heq] at hc
      exact hne (by simpa using hc.symm)
    rw [List.singleton_append, percentDecode_cons_of_ne hpct, utf8EncodeChar_ascii (by omega), hc]
    simp
  next =>
    have hhi : b.toNat / 16 < 16 := by have := UInt8.toNat_lt b; omega
    have hlo : b.toNat % 16 < 16 := Nat.mod_lt _ (by omega)
    simp only [percentByte, List.cons_append, List.nil_append]
    rw [percentDecode]
    simp only [hexValue_hexDigit hhi, hexValue_hexDigit hlo]
    rw [show b.toNat / 16 * 16 + b.toNat % 16 = b.toNat by omega]
    simp

theorem percentDecode_flatMap_encodeByte (bytes : List UInt8) :
    percentDecode (bytes.flatMap encodeByte) = bytes := by
  induction bytes with
  | nil => rfl
  | cons b rest ih => rw [List.flatMap_cons, percentDecode_encodeByte, ih]

/-- **A name's segment percent-decodes to the name's bytes.** -/
theorem percentDecode_encodeSegment (s : String) :
    percentDecode (encodeSegment s).toList = encode s := by
  rw [toList_encodeSegment, percentDecode_flatMap_encodeByte]

/-! ## Reading a URL made of plain parts -/

/-- A character that stands for itself in a URL path: ASCII that a path does not
escape, and neither of the two separators. -/
def isPathChar (c : Char) : Bool :=
  c.toNat < 128 && !isPathEscaped (UInt8.ofNat c.toNat) && c != '/' && c != '\\'

/-- A character that can stand in the host part of a URL: no separator, no start of a
query or a fragment, and nothing a URL drops. -/
def isHostChar (c : Char) : Bool :=
  c != '/' && c != '\\' && c != '?' && c != '#' && !isUrlIgnored c

/-- A segment that a URL reads as itself: path characters only, and no dot segment. -/
structure PlainSegment (s : String) : Prop where
  chars : s.toList.all isPathChar = true
  not_single : isSingleDot s = false
  not_double : isDoubleDot s = false

theorem isPathChar_not_ignored {c : Char} (h : isPathChar c = true) : isUrlIgnored c = false := by
  simp only [isPathChar, Bool.and_eq_true, Bool.not_eq_true', decide_eq_true_eq] at h
  obtain ⟨⟨⟨hlt, hesc⟩, -⟩, -⟩ := h
  have hb : (UInt8.ofNat c.toNat).toNat = c.toNat := by simp; omega
  -- a path character is not escaped, so it is no control character
  have h32 : ¬ (UInt8.ofNat c.toNat < 32) := by
    intro hl
    simp [isPathEscaped, hl] at hesc
  simp only [UInt8.lt_iff_toNat_lt, hb] at h32
  simp only [isUrlIgnored, Bool.or_eq_false_iff, beq_eq_false_iff_ne, ne_eq]
  refine ⟨⟨?_, ?_⟩, ?_⟩ <;> intro heq <;> subst heq <;> simp at h32

/-- Escaping leaves path characters alone. -/
theorem escapeWith_pathChars (cs : List Char) (h : cs.all isPathChar = true) :
    escapeWith isPathEscaped cs = String.ofList cs := by
  unfold escapeWith
  rw [← encode, encode_ofList]
  congr 1
  induction cs with
  | nil => rfl
  | cons c rest ih =>
      simp only [List.all_cons, Bool.and_eq_true] at h
      have hc := h.1
      simp only [isPathChar, Bool.and_eq_true, Bool.not_eq_true', decide_eq_true_eq] at hc
      rw [List.flatMap_cons, utf8EncodeChar_ascii hc.1.1.1, List.singleton_append,
        List.flatMap_cons, ih h.2]
      have hb : (UInt8.ofNat c.toNat).toNat = c.toNat := by simp; omega
      simp [hc.1.1.2, hb]

/-- Splitting a path never gives no segment at all. -/
theorem splitSegments_ne_nil (path : List Char) : splitSegments path ≠ [] := by
  unfold splitSegments
  cases path with
  | nil => simp
  | cons c rest =>
      rw [List.foldr_cons]
      split
      · simp
      · split <;> simp

theorem splitSegments_slash (rest : List Char) :
    splitSegments ('/' :: rest) = [] :: splitSegments rest := by
  obtain ⟨cur, more, h⟩ := List.exists_cons_of_ne_nil (splitSegments_ne_nil rest)
  unfold splitSegments at h ⊢
  rw [List.foldr_cons, h]
  simp

/-- Characters that separate nothing join the segment that follows them. -/
theorem splitSegments_plain_append (seg rest : List Char)
    (h : ∀ c ∈ seg, c ≠ '/' ∧ c ≠ '\\') {cur : List Char} {more : List (List Char)}
    (hrest : splitSegments rest = cur :: more) :
    splitSegments (seg ++ rest) = (seg ++ cur) :: more := by
  induction seg with
  | nil => simpa using hrest
  | cons c seg ih =>
      have hc := h c List.mem_cons_self
      have ih := ih (fun x hx => h x (List.mem_cons_of_mem c hx))
      unfold splitSegments at ih ⊢
      rw [List.cons_append, List.foldr_cons, ih]
      simp [hc.1, hc.2]

/-- **A path made of segments splits back into them.** -/
theorem splitSegments_pathOf (segs : List String)
    (h : ∀ s ∈ segs, ∀ c ∈ s.toList, c ≠ '/' ∧ c ≠ '\\') :
    splitSegments (pathOf segs).toList = [] :: segs.map String.toList := by
  induction segs with
  | nil => rfl
  | cons s rest ih =>
      have ih := ih (fun x hx => h x (List.mem_cons_of_mem s hx))
      rw [toList_pathOf, List.flatMap_cons, List.cons_append, splitSegments_slash,
        ← toList_pathOf, splitSegments_plain_append s.toList _ (h s List.mem_cons_self) ih]
      simp

/-- Resolving segments none of which is a dot segment keeps them all. -/
theorem resolveSegments_plain (acc segs : List String)
    (h : ∀ s ∈ segs, isSingleDot s = false ∧ isDoubleDot s = false) :
    resolveSegments acc segs = acc.reverse ++ segs := by
  induction segs generalizing acc with
  | nil => simp [resolveSegments]
  | cons s rest ih =>
      have hs := h s List.mem_cons_self
      cases rest with
      | nil => simp [resolveSegments, hs.1, hs.2]
      | cons t more =>
          have hrest := ih (s :: acc) (fun x hx => h x (List.mem_cons_of_mem s hx))
          simp only [resolveSegments, hs.1, hs.2, Bool.false_eq_true, if_false, hrest]
          simp

/-- A path of segments is read back as one `/` before each of them. -/
theorem slash_intercalate {segs : List String} (hne : segs ≠ []) :
    "/" ++ "/".intercalate segs = pathOf segs := by
  induction segs with
  | nil => exact absurd rfl hne
  | cons s rest ih =>
      cases rest with
      | nil => simp [pathOf, String.intercalate_singleton, String.join_cons, String.join_nil]
      | cons t more =>
          rw [String.intercalate_cons_of_ne_nil (by simp), pathOf, List.map_cons, String.join_cons,
            ← pathOf, ← ih (by simp)]
          simp [String.append_assoc]

theorem isPathChar_ne {c : Char} (h : isPathChar c = true) :
    c ≠ '/' ∧ c ≠ '\\' ∧ c ≠ '#' ∧ c ≠ '?' := by
  simp only [isPathChar, Bool.and_eq_true, Bool.not_eq_true', decide_eq_true_eq, bne_iff_ne,
    ne_eq] at h
  obtain ⟨⟨⟨hlt, hesc⟩, hslash⟩, hback⟩ := h
  refine ⟨hslash, hback, ?_, ?_⟩ <;> intro heq <;> subst heq <;> simp [isPathEscaped] at hesc

/-- The characters of a path of plain segments: slashes, and path characters. -/
theorem mem_pathOf {segs : List String} (h : ∀ s ∈ segs, PlainSegment s) {c : Char}
    (hc : c ∈ (pathOf segs).toList) : c = '/' ∨ isPathChar c = true := by
  rw [toList_pathOf, List.mem_flatMap] at hc
  obtain ⟨s, hs, hc⟩ := hc
  rcases List.mem_cons.mp hc with rfl | hc
  · exact .inl rfl
  · exact .inr (List.all_eq_true.mp (h s hs).chars c hc)

/-- **A path of plain segments reads as itself.** -/
theorem resolveTail_pathOf {segs : List String} (h : ∀ s ∈ segs, PlainSegment s)
    (hne : segs ≠ []) : resolveTail (pathOf segs).toList = pathOf segs := by
  have hnot : ∀ c ∈ (pathOf segs).toList, c ≠ '#' ∧ c ≠ '?' := by
    intro c hc
    rcases mem_pathOf h hc with rfl | hpc
    · decide
    · exact ⟨(isPathChar_ne hpc).2.2.1, (isPathChar_ne hpc).2.2.2⟩
  have hsplit := splitSegments_pathOf segs fun s hs c hc =>
    let hp := isPathChar_ne (List.all_eq_true.mp (h s hs).chars c hc)
    ⟨hp.1, hp.2.1⟩
  have hescape : (segs.map String.toList).map (fun seg => escapeWith isPathEscaped seg) = segs := by
    rw [List.map_map]
    conv => rhs; rw [← List.map_id segs]
    refine List.map_congr_left fun s hs => ?_
    simp [escapeWith_pathChars s.toList (h s hs).chars]
  have hresolve : resolveSegments [] segs = segs := by
    rw [resolveSegments_plain [] segs fun s hs => ⟨(h s hs).not_single, (h s hs).not_double⟩]
    simp
  -- no `#` and no `?`: the whole tail is path, with no query and no fragment
  have hfrag : (pathOf segs).toList.takeWhile (· != '#') = (pathOf segs).toList :=
    List.takeWhile_eq_self_iff.mpr fun c hc => by simpa using (hnot c hc).1
  have hnofrag : (pathOf segs).toList.dropWhile (· != '#') = [] :=
    List.dropWhile_eq_nil_iff.mpr fun c hc => by simpa using (hnot c hc).1
  have hquery : (pathOf segs).toList.takeWhile (· != '?') = (pathOf segs).toList :=
    List.takeWhile_eq_self_iff.mpr fun c hc => by simpa using (hnot c hc).2
  have hnoquery : (pathOf segs).toList.dropWhile (· != '?') = [] :=
    List.dropWhile_eq_nil_iff.mpr fun c hc => by simpa using (hnot c hc).2
  unfold resolveTail
  simp only [hfrag, hnofrag, hquery, hnoquery, hsplit, hescape, hresolve, String.append_empty]
  exact slash_intercalate hne

/-- The check of a scheme's letters, whatever their case, through the characters. -/
theorem toLower_ofList_beq (l : List Char) (s : String) :
    ((String.ofList l).toLower == s) = (l.map Char.toLower == s.toList) := by
  rw [Bool.eq_iff_iff, beq_iff_eq, beq_iff_eq, ← String.toList_inj, String.toLower,
    String.toList_map, String.toList_ofList]

/-- A URL that starts with a scheme the client reads is read by that scheme: `http://`
is no start of `https://`. -/
theorem find_urlScheme {scheme : String} {port : Nat} (hscheme : (scheme, port) ∈ urlSchemes)
    (rest : List Char) :
    urlSchemes.find? (fun sch =>
        (String.ofList ((scheme.toList ++ rest).take sch.1.length)).toLower == sch.1) =
      some (scheme, port) := by
  simp only [urlSchemes, List.mem_cons, Prod.mk.injEq, List.not_mem_nil, or_false] at hscheme
  rcases hscheme with ⟨rfl, rfl⟩ | ⟨rfl, rfl⟩
  · rw [urlSchemes, List.find?_cons_of_pos]
    rw [toLower_ofList_beq, List.take_left' String.length_toList]
    decide
  · rw [urlSchemes, List.find?_cons_of_neg, List.find?_cons_of_pos]
    · rw [toLower_ofList_beq, List.take_left' String.length_toList]
      decide
    · rw [toLower_ofList_beq, List.take_append_of_le_length (by decide)]
      decide

/-- An `http` or `https` URL with nothing the reader drops: its authority runs to the
first `/`, `\`, `?` or `#` after the scheme, and the rest is its tail. -/
theorem resolveUrl_scheme {scheme : String} {port : Nat} (hscheme : (scheme, port) ∈ urlSchemes)
    {rest : String} (hkept : ∀ c ∈ rest.toList, isUrlIgnored c = false) :
    resolveUrl (scheme ++ rest) =
      (resolveAuthority port
          (rest.toList.takeWhile fun c => !(c == '/' || c == '\\' || c == '?' || c == '#'))).map
        fun a => scheme ++ a ++
          resolveTail
            (rest.toList.dropWhile fun c => !(c == '/' || c == '\\' || c == '?' || c == '#')) := by
  have hschemeKept : scheme.toList.all (fun c => !isUrlIgnored c) = true := by
    simp only [urlSchemes, List.mem_cons, Prod.mk.injEq, List.not_mem_nil, or_false] at hscheme
    rcases hscheme with ⟨rfl, -⟩ | ⟨rfl, -⟩ <;> decide
  have hfilter : (scheme ++ rest).toList.filter (fun c => !isUrlIgnored c) =
      scheme.toList ++ rest.toList := by
    rw [String.toList_append]
    refine List.filter_eq_self.mpr fun c hc => ?_
    rcases List.mem_append.mp hc with hc | hc
    · exact List.all_eq_true.mp hschemeKept c hc
    · simp [hkept c hc]
  have hdrop : (scheme.toList ++ rest.toList).drop scheme.length = rest.toList :=
    List.drop_left' String.length_toList
  unfold resolveUrl
  simp only [hfilter]
  rw [find_urlScheme hscheme rest.toList]
  dsimp only
  rw [hdrop]

/-- **An `http` or `https` URL of a plain host and plain segments reads as itself,**
with its host written back as the authority reads it. -/
theorem resolveUrl_plain {scheme : String} {port : Nat} (hscheme : (scheme, port) ∈ urlSchemes)
    {host a : String} {segs : List String}
    (hhost : host.toList.all isHostChar = true) (hauth : resolveAuthority port host.toList = .ok a)
    (hsegs : ∀ s ∈ segs, PlainSegment s) (hne : segs ≠ []) :
    resolveUrl (scheme ++ host ++ pathOf segs) = .ok (scheme ++ a ++ pathOf segs) := by
  have hhostc : ∀ c ∈ host.toList, isHostChar c = true := List.all_eq_true.mp hhost
  -- nothing in the host or the path is dropped
  have hkept : ∀ c ∈ (host ++ pathOf segs).toList, isUrlIgnored c = false := by
    intro c hc
    rcases List.mem_append.mp (String.toList_append ▸ hc) with hc | hc
    · have := hhostc c hc
      simp only [isHostChar, Bool.and_eq_true, Bool.not_eq_true'] at this
      exact this.2
    · rcases mem_pathOf hsegs hc with rfl | hpc
      · decide
      · exact isPathChar_not_ignored hpc
  -- the host ends where the path starts, at its first `/`
  obtain ⟨first, rest, hfirst⟩ := List.exists_cons_of_ne_nil hne
  have hpath : (pathOf segs).toList = '/' :: (first.toList ++ (pathOf rest).toList) := by
    rw [hfirst, toList_pathOf, List.flatMap_cons, ← toList_pathOf]
    rfl
  have hnotEnd : ∀ c ∈ host.toList,
      (!(c == '/' || c == '\\' || c == '?' || c == '#')) = true := by
    intro c hc
    have := hhostc c hc
    simp only [isHostChar, Bool.and_eq_true, bne_iff_ne, ne_eq] at this
    simp [this.1.1.1.1, this.1.1.1.2, this.1.1.2, this.1.2]
  have htake : (host.toList ++ (pathOf segs).toList).takeWhile
      (fun c => !(c == '/' || c == '\\' || c == '?' || c == '#')) = host.toList := by
    rw [List.takeWhile_append_of_pos hnotEnd, hpath]
    simp
  have hdrop : (host.toList ++ (pathOf segs).toList).dropWhile
      (fun c => !(c == '/' || c == '\\' || c == '?' || c == '#')) = (pathOf segs).toList := by
    rw [List.dropWhile_append_of_pos hnotEnd, hpath]
    simp
  rw [String.append_assoc, resolveUrl_scheme hscheme hkept, String.toList_append, htake, hdrop, hauth,
    resolveTail_pathOf hsegs hne]
  rfl

/-- The slashes after a URL that does not end in `/` are dropped from the base, and
nothing else is. -/
theorem baseUrl_append_slashes {url : String} (h : url.toList.getLast? ≠ some '/') (k : Nat) :
    baseUrl (url ++ String.ofList (List.replicate k '/')) = url := by
  -- reversed, the slashes come first and are dropped; the URL's last character stops it
  have hslashes : (List.replicate k '/').dropWhile (· == '/') = [] :=
    List.dropWhile_eq_nil_iff.mpr fun c hc => by simp [List.eq_of_mem_replicate hc]
  have hkeep : url.toList.reverse.dropWhile (· == '/') = url.toList.reverse := by
    cases hrev : url.toList.reverse with
    | nil => rfl
    | cons c rest =>
        have hc : c ≠ '/' := by
          intro heq
          apply h
          rw [List.getLast?_eq_head?_reverse, hrev, heq]
          rfl
        exact List.dropWhile_cons_of_neg (by simpa using hc)
  unfold baseUrl
  rw [String.toList_append, String.toList_ofList, List.reverse_append, List.reverse_replicate,
    List.dropWhile_append, hslashes, List.isEmpty_nil, if_pos rfl, hkeep, List.reverse_reverse,
    String.ofList_toList]

/-! ## A name is one plain segment -/

theorem isUnreserved_iff (b : UInt8) : isUnreserved b = true ↔
    (65 ≤ b.toNat ∧ b.toNat ≤ 90) ∨ (97 ≤ b.toNat ∧ b.toNat ≤ 122) ∨
      (48 ≤ b.toNat ∧ b.toNat ≤ 57) ∨ b.toNat = 45 ∨ b.toNat = 95 ∨ b.toNat = 46 ∨
      b.toNat = 126 := by
  simp only [isUnreserved, Bool.or_eq_true, Bool.and_eq_true, decide_eq_true_eq, beq_iff_eq,
    UInt8.le_iff_toNat_le, ← UInt8.toNat_inj, UInt8.reduceToNat, or_assoc]

theorem isPathEscaped_eq_false_iff (b : UInt8) : isPathEscaped b = false ↔
    32 < b.toNat ∧ b.toNat ≤ 126 ∧ b.toNat ≠ 34 ∧ b.toNat ≠ 35 ∧ b.toNat ≠ 60 ∧
      b.toNat ≠ 62 ∧ b.toNat ≠ 63 ∧ b.toNat ≠ 96 ∧ b.toNat ≠ 123 ∧ b.toNat ≠ 125 := by
  simp only [isPathEscaped, Bool.or_eq_false_iff, decide_eq_false_iff_not, beq_eq_false_iff_ne,
    ne_eq, UInt8.lt_iff_toNat_lt, ← UInt8.toNat_inj, UInt8.reduceToNat]
  omega

theorem isPathChar_iff (c : Char) : isPathChar c = true ↔
    c.toNat < 128 ∧ isPathEscaped (UInt8.ofNat c.toNat) = false ∧ c.toNat ≠ 47 ∧
      c.toNat ≠ 92 := by
  have hslash : c ≠ '/' ↔ c.toNat ≠ 47 := not_congr Char.toNat_inj.symm
  have hback : c ≠ '\\' ↔ c.toNat ≠ 92 := not_congr Char.toNat_inj.symm
  simp only [isPathChar, Bool.and_eq_true, decide_eq_true_eq, Bool.not_eq_true', bne_iff_ne,
    hslash, hback, and_assoc]

/-- An unreserved byte stands in a path as itself. -/
theorem isPathChar_of_isUnreserved {b : UInt8} (h : isUnreserved b = true) :
    isPathChar (Char.ofNat b.toNat) = true := by
  have hb := (isUnreserved_iff b).mp h
  rw [isPathChar_iff, charOfByte_toNat (by omega), UInt8.ofNat_toNat,
    isPathEscaped_eq_false_iff]
  omega

theorem all_isPathChar_encodeByte (b : UInt8) : (encodeByte b).all isPathChar = true := by
  unfold encodeByte
  split
  next hu => simp [isPathChar_of_isUnreserved hu]
  next =>
    have hdigit : ∀ n : Fin 16, isPathChar (hexDigit n) = true := by decide
    have hhi : isPathChar (hexDigit (b.toNat / 16)) = true :=
      hdigit ⟨_, by have := UInt8.toNat_lt b; omega⟩
    have hlo : isPathChar (hexDigit (b.toNat % 16)) = true := hdigit ⟨_, Nat.mod_lt _ (by omega)⟩
    simp only [percentByte, List.all_cons, List.all_nil, hhi, hlo, Bool.and_true]
    decide

/-- Every character of a name's segment stands for itself in a path. -/
theorem all_isPathChar_encodeSegment (s : String) :
    (encodeSegment s).toList.all isPathChar = true := by
  rw [toList_encodeSegment, List.all_flatMap]
  exact List.all_eq_true.mpr fun b _ => all_isPathChar_encodeByte b

/-- Lower-casing changes only the capitals `A` to `Z`, each to the letter 32 codes on. -/
theorem toLower_cases (c : Char) :
    c.toLower = c ∨ (65 ≤ c.toNat ∧ c.toNat ≤ 90 ∧ c.toLower.toNat = c.toNat + 32) := by
  unfold Char.toLower
  split
  next h =>
    right
    simp only [ge_iff_le, UInt32.le_iff_toNat_le] at h
    refine ⟨h.1, h.2, ?_⟩
    show (c.val + ('a'.val - 'A'.val)).toNat = c.val.toNat + 32
    have hshift : ('a'.val - 'A'.val).toNat = 32 := rfl
    have hupper : c.val.toNat ≤ 90 := h.2
    rw [UInt32.toNat_add, hshift]
    omega
  next => left; rfl

/-- Only a character itself lower-cases to one below the small letters. -/
theorem eq_of_toLower_eq {c d : Char} (h : c.toLower = d) (hd : d.toNat < 97) : c = d := by
  rcases toLower_cases c with hc | ⟨hlower, -, hn⟩
  · exact hc.symm.trans h
  · rw [h] at hn
    omega

theorem toLower_eq_e {c : Char} (h : c.toLower = 'e') : c = 'e' ∨ c = 'E' := by
  rcases toLower_cases c with hc | ⟨-, -, hn⟩
  · exact .inl (hc.symm.trans h)
  · right
    have he : ('e' : Char).toNat = 101 := rfl
    have hE : ('E' : Char).toNat = 69 := rfl
    rw [h, he] at hn
    exact Char.toNat_inj.mp (by omega)

theorem toList_toLower (t : String) : t.toLower.toList = t.toList.map Char.toLower := by
  rw [String.toLower, String.toList_map]

/-- The lower-case forms of a dot in a segment: the dot, and its percent-encoding. -/
def dotCodes : List (List Char) := [['.'], ['%', '2', 'e']]

/-- A segment that starts with a dot, in either form and case, decodes to a dot first. -/
theorem percentDecode_dotCode {cs d rest : List Char} (hd : d ∈ dotCodes)
    (h : cs.map Char.toLower = d ++ rest) :
    ∃ cs', cs'.map Char.toLower = rest ∧ percentDecode cs = 46 :: percentDecode cs' := by
  simp only [dotCodes, List.mem_cons, List.mem_nil_iff, or_false] at hd
  rcases hd with rfl | rfl
  · obtain ⟨a, cs', rfl, ha, hrest⟩ := List.map_eq_cons_iff.mp h
    obtain rfl := eq_of_toLower_eq ha (by decide)
    exact ⟨cs', hrest, by rw [percentDecode_cons_of_ne (by decide)]; rfl⟩
  · obtain ⟨a, cs₁, rfl, ha, h₁⟩ := List.map_eq_cons_iff.mp h
    obtain ⟨b, cs₂, rfl, hb, h₂⟩ := List.map_eq_cons_iff.mp h₁
    obtain ⟨e, cs', rfl, he, hrest⟩ := List.map_eq_cons_iff.mp h₂
    obtain rfl := eq_of_toLower_eq ha (by decide)
    obtain rfl := eq_of_toLower_eq hb (by decide)
    refine ⟨cs', hrest, ?_⟩
    rcases toLower_eq_e he with rfl | rfl <;> rw [percentDecode] <;> rfl

/-- A segment the URL standard reads as "this directory" decodes to one dot. -/
theorem percentDecode_of_isSingleDot {t : String} (h : isSingleDot t = true) :
    percentDecode t.toList = [46] := by
  have hlow : ∃ d ∈ dotCodes, t.toList.map Char.toLower = d ++ [] := by
    simp only [isSingleDot, Bool.or_eq_true, beq_iff_eq] at h
    rcases h with rfl | h
    · decide
    · rw [← toList_toLower, h]
      decide
  obtain ⟨d, hd, hmap⟩ := hlow
  obtain ⟨cs, hnil, hdecode⟩ := percentDecode_dotCode hd hmap
  rw [hdecode, List.map_eq_nil_iff.mp hnil]
  rfl

/-- A segment the URL standard reads as "the parent" decodes to two dots. -/
theorem percentDecode_of_isDoubleDot {t : String} (h : isDoubleDot t = true) :
    percentDecode t.toList = [46, 46] := by
  have hlow : ∃ d₁ ∈ dotCodes, ∃ d₂ ∈ dotCodes, t.toList.map Char.toLower = d₁ ++ (d₂ ++ []) := by
    simp only [isDoubleDot, Bool.or_eq_true, beq_iff_eq] at h
    rw [← toList_toLower]
    rcases h with ((h | h) | h) | h <;> rw [h] <;> decide
  obtain ⟨d₁, hd₁, d₂, hd₂, hmap⟩ := hlow
  obtain ⟨cs₁, hmap₁, hdecode₁⟩ := percentDecode_dotCode hd₁ hmap
  obtain ⟨cs₂, hnil, hdecode₂⟩ := percentDecode_dotCode hd₂ hmap₁
  rw [hdecode₁, hdecode₂, List.map_eq_nil_iff.mp hnil]
  rfl

/-- A segment of path characters that decodes to neither one nor two dots is plain. -/
theorem plainSegment_of_percentDecode {t : String} (hchars : t.toList.all isPathChar = true)
    (hone : percentDecode t.toList ≠ [46]) (htwo : percentDecode t.toList ≠ [46, 46]) :
    PlainSegment t where
  chars := hchars
  not_single := Bool.eq_false_iff.mpr fun h => hone (percentDecode_of_isSingleDot h)
  not_double := Bool.eq_false_iff.mpr fun h => htwo (percentDecode_of_isDoubleDot h)

/-- **Every name but `.` and `..` is one plain segment.** -/
theorem plainSegment_encodeSegment {s : String} (hone : s ≠ ".") (htwo : s ≠ "..") :
    PlainSegment (encodeSegment s) := by
  have hdot : encode "." = [46] := by rw [encode_eq_flatMap]; decide
  have hdots : encode ".." = [46, 46] := by rw [encode_eq_flatMap]; decide
  refine plainSegment_of_percentDecode (all_isPathChar_encodeSegment s) ?_ ?_
  · rw [percentDecode_encodeSegment, ← hdot]
    exact fun h => hone (encode_inj h)
  · rw [percentDecode_encodeSegment, ← hdots]
    exact fun h => htwo (encode_inj h)

/-- The fixed words of the routes. -/
def routeWords : List String :=
  ["build-worker", "jobs", "push", "finish", "log", "tagged-log", "build-source"]

theorem plainSegment_of_mem_routeWords {w : String} (h : w ∈ routeWords) : PlainSegment w := by
  simp only [routeWords, List.mem_cons, List.mem_nil_iff, or_false] at h
  rcases h with rfl | rfl | rfl | rfl | rfl | rfl | rfl <;>
    exact plainSegment_of_percentDecode (by decide) (by decide) (by decide)

/-- A segment of a request's route is a fixed word or a name of the request, encoded. -/
theorem Request.mem_segments (r : Request) {s : String} (hs : s ∈ r.route.segments) :
    s ∈ routeWords ∨ ∃ n ∈ r.route.names, s = encodeSegment n := by
  cases r <;>
    simp only [Request.route, Route.segments, Route.names, queueSegments, routeWords,
      List.cons_append, List.nil_append, List.mem_cons, List.mem_nil_iff, or_false,
      exists_eq_or_imp, exists_eq_left] at hs ⊢ <;>
    grind

/-! ## Where a request goes -/

/-- A URL of a plain host and plain segments, the last of them not empty, does not end
in `/`. -/
theorem getLast?_url_ne_slash {scheme host : String} {base : List String}
    (hhost : host.toList.all isHostChar = true) (hnonempty : host ≠ "")
    (hbase : ∀ s ∈ base, PlainSegment s) (hlast : ∀ s, base.getLast? = some s → s ≠ "") :
    (scheme ++ host ++ pathOf base).toList.getLast? ≠ some '/' := by
  intro hend
  -- the last character is the host's when there is no segment, else the last segment's
  rcases List.eq_nil_or_concat base with rfl | ⟨init, s, rfl⟩
  · have hne : host.toList ≠ [] := fun h => hnonempty (String.toList_eq_nil_iff.mp h)
    have hpath : pathOf [] = "" := rfl
    rw [hpath, String.append_empty, String.toList_append,
      List.getLast?_append_of_ne_nil _ hne] at hend
    have hc := List.all_eq_true.mp hhost '/' (List.mem_of_getLast? hend)
    exact absurd hc (by decide)
  · have hs := hbase s (by simp)
    have hsne := hlast s (by simp)
    have hne : s.toList ≠ [] := fun h => hsne (String.toList_eq_nil_iff.mp h)
    have hsplit : (scheme ++ host ++ pathOf (init.concat s)).toList =
        (scheme ++ host ++ pathOf init ++ "/").toList ++ s.toList := by
      simp [List.concat_eq_append, pathOf, String.toList_append]
    rw [hsplit, List.getLast?_append_of_ne_nil _ hne] at hend
    have hc := List.all_eq_true.mp hs.chars '/' (List.mem_of_getLast? hend)
    exact absurd hc (by decide)

/-- **Each name of a request is exactly one segment of its URL.**  For an `http` or
`https` base URL with a plain host and plain path segments, followed by any number of
slashes, a request whose names are neither `.` nor `..` goes to the base path followed by
the route's segments, and each name's segment decodes to the name. -/
theorem ClientSettings.urlOf_of_plain (c : ClientSettings) {scheme : String} {port : Nat}
    (hscheme : (scheme, port) ∈ urlSchemes) {host a : String} {base : List String} {k : Nat}
    (hurl : c.url = scheme ++ host ++ pathOf base ++ String.ofList (List.replicate k '/'))
    (hhost : host.toList.all isHostChar = true) (hnonempty : host ≠ "")
    (hauth : resolveAuthority port host.toList = .ok a) (hbase : ∀ s ∈ base, PlainSegment s)
    (hlast : ∀ s, base.getLast? = some s → s ≠ "")
    (r : Request) (hnames : ∀ n ∈ r.route.names, n ≠ "." ∧ n ≠ "..") :
    c.urlOf r = .ok (scheme ++ a ++ pathOf (base ++ r.route.segments)) ∧
      ∀ n ∈ r.route.names, percentDecode (encodeSegment n).toList = encode n := by
  have hplain : ∀ s ∈ base ++ r.route.segments, PlainSegment s := by
    intro s hs
    rcases List.mem_append.mp hs with hs | hs
    · exact hbase s hs
    · rcases r.mem_segments hs with hword | ⟨n, hn, rfl⟩
      · exact plainSegment_of_mem_routeWords hword
      · exact plainSegment_encodeSegment (hnames n hn).1 (hnames n hn).2
  have hne : base ++ r.route.segments ≠ [] := by
    cases r <;> simp [Request.route, Route.segments, queueSegments]
  -- the trailing slashes are dropped from the base
  have hbaseUrl : baseUrl c.url = scheme ++ host ++ pathOf base := by
    rw [hurl]
    exact baseUrl_append_slashes (getLast?_url_ne_slash hhost hnonempty hbase hlast) k
  refine ⟨?_, fun n _ => percentDecode_encodeSegment n⟩
  have hjoin : scheme ++ host ++ pathOf base ++ pathOf r.route.segments =
      scheme ++ host ++ pathOf (base ++ r.route.segments) := by
    rw [pathOf_append, String.append_assoc]
  rw [ClientSettings.urlOf, hbaseUrl, Route.path_eq_pathOf, hjoin]
  exact resolveUrl_plain hscheme hhost hauth hplain hne

theorem ClientSettings.urlOf_finishBuild_plain :
    (⟨"https://server/api/", none, 30⟩ : ClientSettings).urlOf
        (.finishBuild ⟨"team", "main"⟩ "w1" "j1") =
      .ok ("https://server" ++ pathOf (["api"] ++
        (Request.finishBuild ⟨"team", "main"⟩ "w1" "j1").route.segments)) ∧
    ∀ n ∈ (Request.finishBuild ⟨"team", "main"⟩ "w1" "j1").route.names,
      percentDecode (encodeSegment n).toList = encode n :=
  @ClientSettings.urlOf_of_plain ⟨"https://server/api/", none, 30⟩ "https://" 443
    (by simp [urlSchemes]) "server" "server" ["api"] 1 (by decide) (by decide) (by decide)
    (by cbv)
    (by
      simp only [List.mem_singleton, forall_eq]
      exact plainSegment_of_percentDecode (by decide) (by decide) (by decide))
    (by simp)
    (.finishBuild ⟨"team", "main"⟩ "w1" "j1") (by decide)

/-- The queue pattern accepts `..` as a user, and the request of such a queue leaves
`build-worker` altogether. -/
theorem dot_user_leaves_route :
    QueueName.parse "../x" = .ok ⟨"..", "x"⟩ ∧
      (⟨"http://server/api", none, 30⟩ : ClientSettings).urlOf
          (.finishBuild ⟨"..", "x"⟩ "w1" "j1") =
        .ok "http://server/api/x/w1/jobs/j1/finish" := by
  constructor
  · set_option maxRecDepth 8000 in cbv
  · cbv

end BuildWorker.Server
