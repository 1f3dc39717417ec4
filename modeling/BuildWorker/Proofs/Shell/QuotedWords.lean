import BuildWorker.Proofs.Script.Skeleton
import BuildWorker.Shell.Words
/-!
# Quoted words read back

`Shell.quote` writes a text as one shell word, and `Shell.splitWords` cuts the job's
environment line into words the way a shell does.  The two fit together: the words of
quoted texts joined by spaces are the texts again, whatever characters they hold
(blanks of any kind, quotes, exclamation marks, backslashes, or nothing at all).  So an
environment line written as `NAME=value` words, each value quoted and each name valid,
defines exactly those variables, in order.

The word scanner is followed through each part of a quoted word:

* `scanWords_plain_safe`: characters that need no quoting are added to the open word;
* `scanWords_single_quoteBody`: inside single quotes, the body that `quoteBody` writes
  adds the characters it quotes, and the closing quote leaves the quotes;
* `scanWords_quoteChars`: a quoted word, read on from any point of a word, adds exactly
  its characters;
* `scanWords_joined`: words made of a prefix that needs no quoting and a quoted text,
  joined by spaces, are read back one by one.

The main statement is `quoted_words_read_back`.
-/

set_option autoImplicit false

namespace BuildWorker.Shell

open Text

/-! ## One character at a time -/

/-- A character that needs no quoting is neither blank nor a quote nor a backslash. -/
theorem isSafeChar_ordinary {c : Char} (h : isSafeChar c = true) :
    isBlank c = false ∧ c ≠ '\'' ∧ c ≠ '"' ∧ c ≠ '\\' := by
  simp only [isSafeChar, Bool.or_eq_true, Bool.and_eq_true, decide_eq_true_eq, beq_iff_eq,
    Posix.char_le_iff_toNat_le, ← Char.toNat_inj, Char.reduceToNat] at h
  simp only [isBlank, Bool.or_eq_false_iff, Bool.and_eq_false_iff, decide_eq_false_iff_not,
    beq_eq_false_iff_ne, ne_eq, ← Char.toNat_inj, Char.reduceToNat]
  omega

/-- Outside quotes, a character that is neither blank nor a quote nor a backslash is
added to the open word. -/
theorem scanWords_plain_ordinary {c : Char} (hb : isBlank c = false) (hq : c ≠ '\'')
    (hd : c ≠ '"') (hs : c ≠ '\\') (rest word : List Char) (inWord : Bool) :
    scanWords .plain (c :: rest) word inWord = scanWords .plain rest (c :: word) true := by
  rw [scanWords.eq_6 _ _ _ _ (fun h => absurd h hs) (fun _ _ h => absurd h hs)]
  simp [hb, hq, hd]

/-- Outside quotes, a single quote opens them and starts a word. -/
theorem scanWords_plain_quote (rest word : List Char) (inWord : Bool) :
    scanWords .plain ('\'' :: rest) word inWord = scanWords .single rest word true := by
  rw [scanWords.eq_6 _ _ _ _ (fun h => absurd h (by decide)) (fun _ _ h => absurd h (by decide))]
  simp [isBlank]

/-- Outside quotes, a space ends the open word. -/
theorem scanWords_plain_space (rest word : List Char) :
    scanWords .plain (' ' :: rest) word true = word.reverse :: scanWords .plain rest [] false := by
  rw [scanWords.eq_6 _ _ _ _ (fun h => absurd h (by decide)) (fun _ _ h => absurd h (by decide))]
  simp [isBlank]

/-! ## Quoted words -/

/-- Characters that need no quoting are added to the open word. -/
theorem scanWords_plain_safe {cs : List Char} (safe : cs.all isSafeChar = true)
    (rest word : List Char) (inWord : Bool) :
    scanWords .plain (cs ++ rest) word inWord =
      scanWords .plain rest (cs.reverse ++ word) (inWord || !cs.isEmpty) := by
  induction cs generalizing word inWord with
  | nil => simp
  | cons c cs ih =>
      simp only [List.all_cons, Bool.and_eq_true] at safe
      obtain ⟨hb, hq, hd, hs⟩ := isSafeChar_ordinary safe.1
      rw [List.cons_append, scanWords_plain_ordinary hb hq hd hs, ih safe.2]
      simp

/-- Inside single quotes, the body that `quoteBody` writes adds the characters it quotes,
and the closing quote leaves the quotes: a quote or an exclamation mark closes them, is
escaped by a backslash, and opens them again. -/
theorem scanWords_single_quoteBody (cs rest word : List Char) (inWord : Bool) :
    scanWords .single (quoteBody cs ++ '\'' :: rest) word inWord =
      scanWords .plain rest (cs.reverse ++ word) true := by
  induction cs generalizing word inWord with
  | nil => simp [quoteBody, scanWords]
  | cons c cs ih =>
      by_cases hspecial : (c == '\'' || c == '!') = true
      · have hbody : quoteBody (c :: cs) = '\'' :: '\\' :: c :: '\'' :: quoteBody cs := by
          simp [quoteBody, hspecial]
        have hclose : scanWords .single ('\'' :: '\\' :: c :: '\'' :: (quoteBody cs ++ '\'' :: rest))
            word inWord = scanWords .plain ('\\' :: c :: '\'' :: (quoteBody cs ++ '\'' :: rest))
              word true := by
          simp [scanWords]
        rw [hbody, List.cons_append, List.cons_append, List.cons_append, List.cons_append, hclose,
          scanWords, scanWords_plain_quote, ih]
        simp
      · have hq : c ≠ '\'' := by
          rintro rfl
          simp at hspecial
        have hbody : quoteBody (c :: cs) = c :: quoteBody cs := by simp [quoteBody, hspecial]
        rw [hbody, List.cons_append, scanWords.eq_7]
        simp [hq, ih]

/-- **A quoted word adds exactly its characters** to the word open at that point. -/
theorem scanWords_quoteChars (cs rest word : List Char) (inWord : Bool) :
    scanWords .plain (quoteChars cs ++ rest) word inWord =
      scanWords .plain rest (cs.reverse ++ word) true := by
  unfold quoteChars
  split
  next plain =>
    simp only [isPlainWord, Bool.and_eq_true, Bool.not_eq_true'] at plain
    rw [scanWords_plain_safe plain.2]
    simp [plain.1]
  next =>
    simp only [List.cons_append, List.append_assoc]
    rw [scanWords_plain_quote, scanWords_single_quoteBody, List.nil_append]

/-- A word made of a prefix that needs no quoting and a quoted text, read from a fresh
start, is the prefix followed by the text. -/
theorem scanWords_prefixed {pre : List Char} (safe : pre.all isSafeChar = true)
    (cs rest : List Char) :
    scanWords .plain (pre ++ (quoteChars cs ++ rest)) [] false =
      scanWords .plain rest (cs.reverse ++ pre.reverse) true := by
  rw [scanWords_plain_safe safe, scanWords_quoteChars]
  simp

/-- Words made of a prefix that needs no quoting and a quoted text, joined by spaces,
are read back one by one, each as its prefix followed by its text. -/
theorem scanWords_joined (ws : List (List Char × List Char))
    (safe : ∀ w ∈ ws, w.1.all isSafeChar = true) :
    scanWords .plain (List.intercalate [' '] (ws.map fun w => w.1 ++ quoteChars w.2)) [] false =
      ws.map fun w => w.1 ++ w.2 := by
  induction ws with
  | nil => simp [scanWords]
  | cons w ws ih =>
      have first := scanWords_prefixed (safe w (by simp)) w.2
      cases ws with
      | nil =>
          -- the last word ends with the line
          have := first []
          simp only [List.append_nil] at this
          simp [this, scanWords]
      | cons v vs =>
          -- the space after a word ends it, and the next word starts afresh
          have tail := ih fun u hu => safe u (by simp [hu])
          show scanWords .plain ([' '].intercalate ((w.1 ++ quoteChars w.2) ::
              (v :: vs).map fun w => w.1 ++ quoteChars w.2)) [] false =
            (w.1 ++ w.2) :: (v :: vs).map fun w => w.1 ++ w.2
          rw [List.intercalate_cons_of_ne_nil (by simp)]
          simp only [List.append_assoc, List.singleton_append]
          rw [first, scanWords_plain_space, tail]
          simp

/-! ## The environment line -/

/-- A character of a variable name is not an equals sign. -/
theorem ne_equals_of_isVariableName {name : List Char} (h : isVariableName name = true) :
    ∀ c ∈ name, (c != '=') = true := by
  cases name with
  | nil => simp [isVariableName] at h
  | cons c rest =>
      simp only [isVariableName, Bool.and_eq_true, List.all_eq_true] at h
      intro d hd
      have hchar : (d == '_' || d.isAlphanum) = true := by
        rcases List.mem_cons.mp hd with rfl | hd
        · simp only [Char.isAlphanum, Bool.or_eq_true] at h ⊢
          tauto
        · exact h.2 d hd
      have hne : d ≠ '=' := by
        rintro rfl
        revert hchar
        decide
      simpa using hne

/-- A word `NAME=value` with a valid name splits at the equals sign after the name. -/
theorem span_of_isVariableName {name : List Char} (h : isVariableName name = true)
    (value : List Char) : (name ++ '=' :: value).span (· != '=') = (name, '=' :: value) := by
  rw [List.span_eq_takeWhile_dropWhile, List.takeWhile_append_of_pos (ne_equals_of_isVariableName h),
    List.dropWhile_append_of_pos (ne_equals_of_isVariableName h)]
  simp [List.takeWhile, List.dropWhile]

/-- A word `NAME=value` with a valid name defines that variable. -/
theorem assignment?_of_isVariableName {name value : List Char} (h : isVariableName name = true) :
    assignment? (name ++ '=' :: value) = some (String.ofList name, String.ofList value) := by
  unfold assignment?
  rw [span_of_isVariableName h]
  simp [h]

/-- Every name of a variable needs no quoting, and neither does the equals sign after it. -/
theorem all_isSafeChar_assign {name : List Char} (h : isVariableName name = true) :
    (name ++ ['=']).all isSafeChar = true := by
  cases name with
  | nil => simp [isVariableName] at h
  | cons c rest =>
      simp only [isVariableName, Bool.and_eq_true, List.all_eq_true] at h
      simp only [List.cons_append, List.all_cons, List.all_append, List.all_eq_true, Bool.and_eq_true]
      refine ⟨isSafeChar_of_nameChar ?_, fun d hd => isSafeChar_of_nameChar (h.2 d hd), rfl, by simp⟩
      simp only [Char.isAlphanum, Bool.or_eq_true] at h ⊢
      tauto

/-- **Reading quoted words back.**  The words of quoted texts joined by spaces are the
texts again.  Hence an environment line of `NAME=value` words, each value quoted and each
name valid, defines exactly those variables, in order. -/
theorem quoted_words_read_back :
    (∀ vs : List String,
      splitWords (" ".intercalate (vs.map quote)).toList = vs.map String.toList) ∧
    ∀ pairs : List (String × String), (∀ p ∈ pairs, isVariableName p.1.toList = true) →
      envAssignments (" ".intercalate (pairs.map fun p => p.1 ++ "=" ++ quote p.2)) = pairs := by
  refine ⟨fun vs => ?_, fun pairs names => ?_⟩
  · have := scanWords_joined (vs.map fun v => ([], v.toList)) (by simp)
    simpa [splitWords, quote, Function.comp_def] using this
  · have words := scanWords_joined (pairs.map fun p => (p.1.toList ++ ['='], p.2.toList))
      fun w hw => by
        obtain ⟨p, hp, rfl⟩ := List.mem_map.mp hw
        exact all_isSafeChar_assign (names p hp)
    have read : splitWords (" ".intercalate (pairs.map fun p => p.1 ++ "=" ++ quote p.2)).toList =
        pairs.map fun p => p.1.toList ++ '=' :: p.2.toList := by
      simpa [splitWords, quote, Function.comp_def] using words
    rw [envAssignments, read, List.filterMap_map]
    calc pairs.filterMap (assignment? ∘ fun p => p.1.toList ++ '=' :: p.2.toList)
        = pairs.filterMap some :=
          List.filterMap_congr fun p hp => by simp [assignment?_of_isVariableName (names p hp)]
      _ = pairs := List.filterMap_some

/-- Quotes, blanks and an empty value come back as they were written. -/
theorem quoted_words_read_back_with_quotes :
    (∀ p ∈ [("A", "two words"), ("B", "it's!"), ("_c", "")],
      isVariableName p.1.toList = true) ∧
    envAssignments (" ".intercalate ([("A", "two words"), ("B", "it's!"), ("_c", "")].map
      fun p => p.1 ++ "=" ++ quote p.2)) = [("A", "two words"), ("B", "it's!"), ("_c", "")] := by
  have names : ∀ p ∈ [("A", "two words"), ("B", "it's!"), ("_c", "")],
      isVariableName p.1.toList = true := by
    simp only [List.mem_cons, List.not_mem_nil, or_false, forall_eq_or_imp, forall_eq]
    refine ⟨?_, ?_, ?_⟩ <;> rw [Posix.toList_literal rfl] <;> decide
  exact ⟨names, quoted_words_read_back.2 _ names⟩

end BuildWorker.Shell
