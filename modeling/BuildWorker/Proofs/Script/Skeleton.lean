import Mathlib
import BuildWorker.Proofs.Script.Tokens
import BuildWorker.Script.Generate
/-!
# The tokens of a build script

A build script is generated from a job, and the job's text (its identifier, name,
environment, commands, repository and upload targets) comes from the server.  This
module reads the generated text the way a POSIX shell does (`Posix.readTokens`) and
states what comes out: a fixed *skeleton* of tokens, `scriptTokens`, in which every
piece of job text is one word whose characters all stand for themselves.

The skeleton is, in order: the header (two comments and a blank line); one
`export K=V` per exported variable; the two helper functions; the staging function;
one function per phase, with one `buildq_step ARG || return $?` per command; and the
fixed control block.  After quote removal each `V` is the variable's value and each
`ARG` the command, character for character, and no job text is ever an operator, a
comment or an expansion.

This holds of every job with two exceptions, which `generateScript_tokens` excludes
and which are real: the job identifier is written unquoted into the header comment,
so a newline in it ends the comment and the rest of the identifier is read as
commands (`newline_in_job_id_injects_commands`); and the repository URL is written
inside double quotes for the message that announces the clone, where `$`, the
backquote and the backslash keep their meaning.

Each part of the script is read by a lemma of its own, from between tokens back to
between tokens (`Posix.Reads`); the whole script is the parts one after the other.
-/

set_option autoImplicit false

namespace BuildWorker

open Posix

/-! ## The skeleton -/

/-- The header: two comment lines and a blank line. -/
def headerTokens : List Token := [.newline, .newline, .newline]

/-- `export K=V`, with the assignment one literal word. -/
def exportTokens (key value : String) : List Token :=
  [.text "export", .text (key ++ "=" ++ value), .newline]

/-- The expansion of the first argument, inside double quotes. -/
def firstArgument : Piece := .expansion true ['$', '1']

/-- The expansion of the last status, unquoted. -/
def lastStatus : Piece := .expansion false ['$', '?']

/-- The two helper functions: a section marker, and a step that echoes its command and
runs it in a subshell. -/
def helperTokens : List Token :=
  [.text "buildq_section", .op "(", .op ")", .text lbrace, .newline,
   .text "echo", .word (literals sectionMarker.toList ++ [firstArgument]), .newline,
   .text rbrace, .newline, .newline,
   .text "buildq_step", .op "(", .op ")", .text lbrace, .newline,
   .text "printf", .text "+ %s\\n", .word [firstArgument], .newline,
   .op "(", .text "eval", .word [firstArgument], .op ")", .newline,
   .text rbrace, .newline, .newline]

/-- `git clone` with its options, the branch when there is one, the repository, and
the directory. -/
def cloneTokens (url : String) (branch : Option String) : List Token :=
  [Token.text "clone", .text "--depth", .text "1"] ++
    (match branch with
     | some b => [Token.text "--branch", .text b]
     | none => []) ++
    [Token.text url, .text sourceDir, .op "||", .text "return", .word [lastStatus], .newline]

/-- The staging function. -/
def fetchTokens : Staging → List Token
  | .noSource =>
      [.text "buildq_fetch", .op "(", .op ")", .text lbrace, .text ":", .op ";", .text rbrace,
       .newline]
  | .tarball =>
      [.text "buildq_fetch", .op "(", .op ")", .text lbrace, .newline,
       .text "echo", .text "Extracting build source", .newline,
       .text "mkdir", .text "-p", .text sourceDir, .op "&&", .text "tar", .text "-xf",
       .text sourceTarball, .text "-C", .text sourceDir, .op "&&", .text "cd", .text sourceDir,
       .newline,
       .text rbrace, .newline]
  | .git url branch =>
      [Token.text "buildq_fetch", .op "(", .op ")", .text lbrace, .newline,
       .text "echo", .text ("Cloning " ++ String.ofList (url.toList.filter (· != '"'))), .newline,
       .text "if", .text "[", .text "-n",
       .word [.expansion true (['$'] ++ lbrace.toList ++ "BUILD_GIT_OAUTH_TOKEN:-".toList ++
         rbrace.toList)],
       .text "]", .op ";", .text "then", .newline,
       .text "git", .text "-c",
       .word (literals "http.extraHeader=Authorization: token ".toList ++
         [.expansion true (['$'] ++ lbrace.toList ++ "BUILD_GIT_OAUTH_TOKEN".toList ++
           rbrace.toList)])] ++
      cloneTokens url branch ++
      [Token.text "else", .newline, .text "git"] ++ cloneTokens url branch ++
      [Token.text "fi", .newline,
       .text "cd", .text sourceDir, .newline,
       .text rbrace, .newline]

/-- One step of a phase: the command is one literal word. -/
def stepTokens (command : String) : List Token :=
  [.text "buildq_step", .text command, .op "||", .text "return", .word [lastStatus], .newline]

/-- The function of a phase. -/
def phaseTokens (phase : Phase) (commands : List String) : List Token :=
  if commands.isEmpty then
    [.text ("phase_" ++ phase.name), .op "(", .op ")", .text lbrace, .text ":", .op ";",
     .text rbrace, .newline]
  else
    [Token.text ("phase_" ++ phase.name), .op "(", .op ")", .text lbrace, .newline,
     .text "buildq_section", .text phase.name, .newline] ++
    commands.flatMap stepTokens ++ [Token.text rbrace, .newline]

/-- `if ! C; then` followed by the two hooks of a failure and the exit with its code. -/
def failureTokens (condition : List Token) (hook : String) (code : Int) : List Token :=
  [Token.text "if"] ++ condition ++ [Token.op ";", .text "then", .newline,
   .text hook, .newline, .text "phase_after_script", .newline,
   .text "exit", .text (toString code), .newline,
   .text "fi", .newline, .newline]

/-- The control block: staging and install, then the three build phases, each with its
failure branch, then the hooks of a success. -/
def controlTokens : List Token :=
  failureTokens [.text "!", .text "buildq_fetch"] "phase_after_error" exitError ++
  failureTokens [.text "!", .text "phase_install"] "phase_after_error" exitError ++
  failureTokens [.text "!", .text "phase_test", .op "||", .text "!", .text "phase_before_script",
    .op "||", .text "!", .text "phase_script"] "phase_after_failure" exitFailure ++
  [Token.text "phase_after_success", .newline, .text "phase_after_script", .newline,
   .text "exit", .text (toString exitSuccess), .newline]

/-- The tokens of a job's script after its header. -/
def bodyTokens (job : Job) (ctx : ScriptContext) : List Token :=
  (scriptExports job ctx).flatMap (fun (k, v) => exportTokens k v) ++
  [Token.newline] ++
  helperTokens ++
  fetchTokens ctx.source ++ [Token.newline] ++
  Phase.all.flatMap (fun p => phaseTokens p (phaseCommands job ctx p) ++ [Token.newline]) ++
  controlTokens

/-- The tokens of a job's script. -/
def scriptTokens (job : Job) (ctx : ScriptContext) : List Token :=
  headerTokens ++
  (scriptExports job ctx).flatMap (fun (k, v) => exportTokens k v) ++
  [Token.newline] ++
  helperTokens ++
  fetchTokens ctx.source ++ [Token.newline] ++
  Phase.all.flatMap (fun p => phaseTokens p (phaseCommands job ctx p) ++ [Token.newline]) ++
  controlTokens

/-! ## Names -/

/-- A character of a variable name needs no quoting. -/
theorem isSafeChar_of_nameChar {c : Char} (h : (c == '_' || c.isAlphanum) = true) :
    Shell.isSafeChar c = true := by
  simp only [Char.isAlphanum, Char.isAlpha, Char.isUpper, Char.isLower, Char.isDigit,
    Bool.or_eq_true, Bool.and_eq_true, decide_eq_true_eq, beq_iff_eq, ge_iff_le,
    UInt32.le_iff_toNat_le, ← Char.toNat_inj, Char.reduceToNat] at h
  simp only [Shell.isSafeChar, Bool.or_eq_true, Bool.and_eq_true, decide_eq_true_eq, beq_iff_eq,
    Char.le_def, UInt32.le_iff_toNat_le, ← Char.toNat_inj, Char.reduceToNat]
  -- the bounds of the three ranges, as numbers
  have hval : c.toNat = c.val.toNat := rfl
  have ha : 'a'.val.toNat = 97 := rfl
  have hz : 'z'.val.toNat = 122 := rfl
  have hA : 'A'.val.toNat = 65 := rfl
  have hZ : 'Z'.val.toNat = 90 := rfl
  have h0 : '0'.val.toNat = 48 := rfl
  have h9 : '9'.val.toNat = 57 := rfl
  omega

/-- A variable name is a bare word. -/
theorem isBareWord_of_isVariableName {cs : List Char} (h : Shell.isVariableName cs = true) :
    IsBareWord cs := by
  apply isBareWord_of_isPlainWord
  cases cs with
  | nil => simp [Shell.isVariableName] at h
  | cons c rest =>
      simp only [Shell.isVariableName, Bool.and_eq_true, List.all_eq_true] at h
      obtain ⟨hfirst, hrest⟩ := h
      have hc : Shell.isSafeChar c = true := by
        apply isSafeChar_of_nameChar
        simp only [Char.isAlphanum, Bool.or_eq_true] at hfirst ⊢
        rcases hfirst with h | h
        · exact Or.inl h
        · exact Or.inr (Or.inl h)
      simp only [Shell.isPlainWord, List.isEmpty_cons, Bool.not_false, List.all_cons, hc,
        Bool.true_and, List.all_eq_true]
      exact fun d hd => isSafeChar_of_nameChar (hrest d hd)

/-- Every variable the environment line defines has a valid name. -/
theorem Shell.envAssignments_isVariableName {line : String} {kv : String × String}
    (h : kv ∈ Shell.envAssignments line) : Shell.isVariableName kv.1.toList = true := by
  unfold Shell.envAssignments at h
  obtain ⟨word, -, hword⟩ := List.mem_filterMap.mp h
  unfold Shell.assignment? at hword
  split at hword
  next name value _ =>
    split at hword
    next hname =>
      simp only [Option.some.injEq] at hword
      rw [← hword, String.toList_ofList]
      exact hname
    next => simp at hword
  next => simp at hword

/-- Every exported variable has a valid name: the fixed ones, and those of the job's
environment, which are checked. -/
theorem scriptExports_isVariableName (job : Job) (ctx : ScriptContext) :
    ∀ kv ∈ scriptExports job ctx, Shell.isVariableName kv.1.toList = true := by
  intro kv hkv
  unfold scriptExports at hkv
  simp only [List.mem_append] at hkv
  rcases hkv with (hfixed | htoken) | henv
  · simp only [List.mem_cons, List.not_mem_nil, or_false] at hfixed
    rcases hfixed with h | h | h | h | h | h | h | h | h | h | h | h | h | h <;>
      (subst h; rw [toList_literal rfl]; decide)
  · split at htoken
    · simp only [List.mem_singleton] at htoken
      subst htoken
      rw [toList_literal rfl]
      decide
    · simp at htoken
  · exact Shell.envAssignments_isVariableName henv

/-! ## Each part of the script reads as its skeleton -/

/-- The header's second line is a comment, and the job identifier stays inside it as
long as it holds no newline. -/
theorem reads_scriptHeader {job : Job} (hid : '\n' ∉ job.id.toList) :
    Reads (scriptHeader job).toList headerTokens := by
  unfold scriptHeader
  simp only [String.toList_append]
  have hfirst : run .between "#!/usr/bin/env bash\n".toList = (.between, [.newline]) :=
    run_literal rfl (by decide)
  have hsecond : run .between "# Build script for job ".toList = (.comment, []) :=
    run_literal rfl (by decide)
  have hlast : run .comment "\n\n".toList = (.between, [.newline, .newline]) :=
    run_literal rfl (by decide)
  exact run_append_of (run_append_of (run_append_of hfirst hsecond) (run_comment hid)) hlast

theorem reads_newline : Reads "\n".toList [.newline] := run_literal rfl (by decide)

/-- **An export line is one assignment word**: the name, `=`, and the value, which the
quotes give back exactly. -/
theorem reads_exportLine {key : String} (value : String)
    (hkey : Shell.isVariableName key.toList = true) :
    Reads (exportLine key value).toList (exportTokens key value) := by
  have hexport : run .between "export ".toList = (.between, [.text "export"]) :=
    run_literal rfl (by decide)
  have hname := run_between_bareWord (isBareWord_of_isVariableName hkey)
  have hequals : "=".toList = ['='] := toList_literal rfl
  have hassign : run (.word (literals key.toList)) "=".toList =
      (.word (literals key.toList ++ [.literal '=']), []) := by
    rw [hequals]
    rfl
  have hvalue := run_word_quoteChars value.toList (literals key.toList ++ [.literal '='])
  have hend : run (.word (literals key.toList ++ [.literal '='] ++ literals value.toList))
      "\n".toList =
      (.between, [.word (literals key.toList ++ [.literal '='] ++ literals value.toList), .newline]) :=
    run_literal rfl rfl
  unfold Reads exportLine
  simp only [String.toList_append, Shell.quote, String.toList_ofList]
  rw [run_append_of (run_append_of (run_append_of (run_append_of hexport hname) hassign) hvalue)
    hend]
  simp [exportTokens, Token.text, hequals]

/-- The exported variables, one line each. -/
theorem reads_exports (job : Job) (ctx : ScriptContext) :
    Reads ((scriptExports job ctx).flatMap fun kv => (exportLine kv.1 kv.2).toList)
      ((scriptExports job ctx).flatMap fun kv => exportTokens kv.1 kv.2) :=
  Reads.flatMap _ _ _ fun kv hkv =>
    reads_exportLine kv.2 (scriptExports_isVariableName job ctx kv hkv)

theorem reads_helperFunctions : Reads helperFunctions.toList helperTokens := by
  unfold helperFunctions
  simp only [String.toList_append]
  unfold lbrace rbrace sectionMarker
  repeat rw [toList_literal rfl]
  decide +kernel

theorem reads_controlBlock : Reads controlBlock.toList controlTokens := by
  unfold controlBlock
  simp only [String.toList_append]
  repeat rw [toList_literal rfl]
  decide +kernel

/-- **A step is one command word**, which the quotes give back exactly, and a
`|| return $?` that ends the phase with the status of a failing step. -/
theorem reads_stepLine (command : String) :
    Reads (stepLine command).toList (stepTokens command) := by
  have hstep : run .between "    buildq_step ".toList = (.between, [.text "buildq_step"]) :=
    run_literal rfl (by decide)
  have hcommand := run_between_quoteChars command.toList
  have hrest : run (.word (literals command.toList)) " || return $?\n".toList =
      (.between, [.word (literals command.toList), .op "||", .text "return", .word [lastStatus],
        .newline]) := by
    rw [toList_literal rfl]
    exact run_word_blank (by decide)
  unfold Reads stepLine
  simp only [String.toList_append, Shell.quote, String.toList_ofList]
  rw [run_append_of (run_append_of hstep hcommand) hrest]
  rfl

/-- The name of every phase is a bare word. -/
theorem isBareWord_phase_name (phase : Phase) : IsBareWord phase.name.toList := by
  cases phase <;> (unfold Phase.name; rw [toList_literal rfl]; decide)

/-- A phase function opens with its name, `phase_` and the phase's own. -/
theorem run_phase_name (phase : Phase) :
    run .between ("phase_".toList ++ phase.name.toList ++ "() ".toList) =
      (.between, [.text ("phase_" ++ phase.name), .op "(", .op ")"]) := by
  have hprefix : run .between "phase_".toList = (.word (literals "phase_".toList), []) :=
    run_literal rfl (by decide)
  have hname := run_word_literals (List.all_eq_true.mp (isBareWord_phase_name phase).2.2) (literals "phase_".toList)
  have hparens : run (.word (literals "phase_".toList ++ literals phase.name.toList)) "() ".toList =
      (.between, [.word (literals "phase_".toList ++ literals phase.name.toList), .op "(", .op ")"]) := by
    rw [toList_literal rfl]
    exact run_word_operator ⟨rfl, by decide, rfl⟩ (by decide)
  rw [run_append_of (run_append_of hprefix hname) hparens]
  simp [Token.text, String.toList_append]

theorem run_lbrace : run .between lbrace.toList = (.word (literals lbrace.toList), []) :=
  run_literal rfl (by decide)

theorem run_rbrace : run .between rbrace.toList = (.word (literals rbrace.toList), []) :=
  run_literal rfl (by decide)

/-- A closing brace ends its line. -/
theorem run_rbrace_newline :
    run (.word (literals rbrace.toList)) "\n".toList = (.between, [.text rbrace, .newline]) :=
  run_literal rfl (by decide)

/-- **A phase function is a no-op, or a section marker and one step per command.** -/
theorem reads_phaseFunction (phase : Phase) (commands : List String) :
    Reads (phaseFunction phase commands).toList (phaseTokens phase commands) := by
  unfold Reads phaseFunction phaseTokens
  by_cases hempty : commands.isEmpty = true
  · simp only [hempty, if_true, String.toList_append]
    have hnoop : run (.word (literals lbrace.toList)) " :; ".toList =
        (.between, [.text lbrace, .text ":", .op ";"]) :=
      run_literal rfl (by decide)
    rw [run_append_of (run_append_of (run_append_of (run_append_of (run_phase_name phase)
      run_lbrace) hnoop) run_rbrace) run_rbrace_newline]
    rfl
  · simp only [hempty, Bool.false_eq_true, if_false, String.toList_append]
    have hsection : run (.word (literals lbrace.toList)) "\n    buildq_section ".toList =
        (.between, [.text lbrace, .newline, .text "buildq_section"]) :=
      run_literal rfl (by decide)
    have hname := run_between_bareWord (isBareWord_phase_name phase)
    have hend : run (.word (literals phase.name.toList)) "\n".toList =
        (.between, [.text phase.name, .newline]) :=
      run_literal rfl rfl
    have hsteps : Reads ((commands.map stepLine).flatMap String.toList)
        (commands.flatMap stepTokens) := by
      rw [List.flatMap_map]
      exact Reads.flatMap _ _ _ fun c _ => reads_stepLine c
    rw [String.toList_join,
      run_append_of (run_append_of (run_append_of (run_append_of (run_append_of (run_append_of
        (run_append_of (run_phase_name phase) run_lbrace) hsection) hname) hend) hsteps)
        run_rbrace) run_rbrace_newline]
    simp

/-- The arguments of a clone end the word before them, and are the branch, the
repository and the directory, each one word that the quotes give back exactly. -/
theorem run_cloneArguments (pieces : List Piece) (url : String) (branch : Option String) :
    run (.word pieces) (cloneArguments url branch).toList =
      (.word (literals sourceDir.toList), .word pieces ::
        ((match branch with
          | some b => [.text "--branch", .text b]
          | none => []) ++ [.text url])) := by
  have hurl := run_between_quoteChars url.toList
  have hafter : run (.word (literals url.toList)) " ".toList = (.between, [.text url]) :=
    run_literal rfl rfl
  have hdir : run .between sourceDir.toList = (.word (literals sourceDir.toList), []) :=
    run_literal rfl (by decide)
  unfold cloneArguments
  cases branch with
  | some b =>
      have hoption : run (.word pieces) " --branch ".toList =
          (.between, [.word pieces, .text "--branch"]) := by
        rw [toList_literal rfl]
        exact run_word_blank (by decide)
      have hbranch := run_between_quoteChars b.toList
      have hspace : run (.word (literals b.toList)) " ".toList = (.between, [.text b]) :=
        run_literal rfl rfl
      simp only [String.toList_append, Shell.quote, String.toList_ofList]
      rw [run_append_of (run_append_of (run_append_of (run_append_of (run_append_of hoption
        hbranch) hspace) hurl) hafter) hdir]
      rfl
  | none =>
      have hspace : run (.word pieces) " ".toList = (.between, [.word pieces]) :=
        run_literal rfl rfl
      simp only [String.toList_append, String.toList_empty, List.nil_append, Shell.quote,
        String.toList_ofList]
      rw [run_append_of (run_append_of (run_append_of hspace hurl) hafter) hdir]
      rfl

/-- A clone command after its first words: the depth, the arguments, and a
`|| return $?` that ends staging with the status of a failed clone. -/
theorem run_clone (pieces : List Piece) (url : String) (branch : Option String) :
    run (.word pieces)
      ((" clone --depth 1".toList ++ (cloneArguments url branch).toList) ++
        " || return $?\n".toList) =
      (.between, .word pieces :: cloneTokens url branch) := by
  have hdepth : run (.word pieces) " clone --depth 1".toList =
      (.word (literals "1".toList), [.word pieces, .text "clone", .text "--depth"]) := by
    rw [toList_literal rfl]
    exact run_word_blank (by decide)
  have hend : run (.word (literals sourceDir.toList)) " || return $?\n".toList =
      (.between, [.text sourceDir, .op "||", .text "return", .word [lastStatus], .newline]) :=
    run_literal rfl (by decide)
  rw [run_append_of (run_append_of hdepth (run_cloneArguments _ url branch)) hend]
  cases branch <;> rfl

/-- The staging function without a source, or with a tarball, is fixed text. -/
theorem reads_fetchFunction_noSource :
    Reads (fetchFunction .noSource).toList (fetchTokens .noSource) := by
  unfold fetchFunction
  simp only [String.toList_append]
  unfold lbrace rbrace
  repeat rw [toList_literal rfl]
  decide

theorem reads_fetchFunction_tarball :
    Reads (fetchFunction .tarball).toList (fetchTokens .tarball) := by
  unfold fetchFunction
  simp only [String.toList_append]
  unfold lbrace rbrace sourceDir sourceTarball
  repeat rw [toList_literal rfl]
  decide +kernel

/-- **The staging function of a clone.**  The repository is quoted wherever it is an
argument, but the message that announces the clone shows it inside double quotes, with
only its double quotes taken out: there `$`, the backquote and the backslash would
still act, so the repository must hold none of them. -/
theorem reads_fetchFunction_git {url : String} (branch : Option String)
    (hurl : ∀ c ∈ url.toList, c ≠ '$' ∧ c ≠ '`' ∧ c ≠ '\\') :
    Reads (fetchFunction (.git url branch)).toList (fetchTokens (.git url branch)) := by
  have hshown : ∀ c ∈ url.toList.filter (· != '"'), isDoubleLiteral c = true := by
    intro c hc
    simp only [List.mem_filter, bne_iff_ne, ne_eq] at hc
    obtain ⟨hmem, hquote⟩ := hc
    obtain ⟨hdollar, hback, hslash⟩ := hurl c hmem
    simp [isDoubleLiteral, hquote, hdollar, hback, hslash]
  have hopen : run .between "buildq_fetch() \x7b\n    echo \"Cloning ".toList =
      (.double (literals "Cloning ".toList),
        [.text "buildq_fetch", .op "(", .op ")", .text lbrace, .newline, .text "echo"]) :=
    run_literal rfl (by decide)
  have hmessage := run_double_literals hshown (literals "Cloning ".toList)
  have hclose : run (.double (literals "Cloning ".toList ++
      literals (url.toList.filter (· != '"')))) "\"\n".toList =
      (.between, [.word (literals "Cloning ".toList ++ literals (url.toList.filter (· != '"'))),
        .newline]) :=
    run_literal rfl rfl
  have htoken : run .between
      "    if [ -n \"$\x7bBUILD_GIT_OAUTH_TOKEN:-\x7d\" ]; then\n".toList =
      (.between, [.text "if", .text "[", .text "-n",
        .word [.expansion true (['$'] ++ lbrace.toList ++ "BUILD_GIT_OAUTH_TOKEN:-".toList ++
          rbrace.toList)],
        .text "]", .op ";", .text "then", .newline]) :=
    run_literal rfl (by decide)
  have hheader : run .between
      "        git -c \"http.extraHeader=Authorization: token $\x7bBUILD_GIT_OAUTH_TOKEN\x7d\"".toList =
      (.word (literals "http.extraHeader=Authorization: token ".toList ++
        [.expansion true (['$'] ++ lbrace.toList ++ "BUILD_GIT_OAUTH_TOKEN".toList ++ rbrace.toList)]),
        [.text "git", .text "-c"]) :=
    run_literal rfl (by decide +kernel)
  have helse : run .between "    else\n        git".toList =
      (.word (literals "git".toList), [.text "else", .newline]) :=
    run_literal rfl (by decide)
  have hfi : run .between "    fi\n    cd ".toList = (.between, [.text "fi", .newline, .text "cd"]) :=
    run_literal rfl (by decide)
  have hdir : run .between sourceDir.toList = (.word (literals sourceDir.toList), []) :=
    run_literal rfl (by decide)
  have hend : run (.word (literals sourceDir.toList)) "\n\x7d\n".toList =
      (.between, [.text sourceDir, .newline, .text rbrace, .newline]) :=
    run_literal rfl (by decide)
  unfold Reads fetchFunction
  simp only [String.toList_append, String.toList_ofList]
  rw [run_append_of (run_append_of (run_append_of (run_append_of (run_append_of (run_append_of
    (run_append_of (run_append_of (run_append_of (run_append_of hopen hmessage) hclose) htoken)
    hheader) (run_clone _ url branch)) helse) (run_clone _ url branch)) hfi) hdir) hend]
  simp [fetchTokens, Token.text]

/-- The staging function, whatever the source, when a repository to clone holds no
character that double quotes leave active. -/
theorem reads_fetchFunction {source : Staging}
    (hurl : ∀ url branch, source = .git url branch → ∀ c ∈ url.toList,
      c ≠ '$' ∧ c ≠ '`' ∧ c ≠ '\\') :
    Reads (fetchFunction source).toList (fetchTokens source) := by
  cases source with
  | noSource => exact reads_fetchFunction_noSource
  | tarball => exact reads_fetchFunction_tarball
  | git url branch => exact reads_fetchFunction_git branch (hurl url branch rfl)

/-- The phase functions, each followed by a blank line. -/
theorem reads_phases (job : Job) (ctx : ScriptContext) :
    Reads (Phase.all.flatMap fun p => (phaseFunction p (phaseCommands job ctx p)).toList ++ "\n".toList)
      (Phase.all.flatMap fun p => phaseTokens p (phaseCommands job ctx p) ++ [.newline]) :=
  Reads.flatMap _ _ _ fun p _ => (reads_phaseFunction p _).append reads_newline

theorem scriptTokens_eq (job : Job) (ctx : ScriptContext) :
    scriptTokens job ctx = headerTokens ++ bodyTokens job ctx := by
  simp [scriptTokens, bodyTokens]

/-- Whatever its header reads as, the rest of a script reads as its body, when a repository
to clone holds no character that double quotes leave active. -/
theorem readTokens_generateScript {job : Job} {ctx : ScriptContext} {header : List Token}
    (hheader : Reads (scriptHeader job).toList header)
    (hurl : ∀ url branch, ctx.source = .git url branch → ∀ c ∈ url.toList,
      c ≠ '$' ∧ c ≠ '`' ∧ c ≠ '\\') :
    readTokens (generateScript job ctx).toList = some (header ++ bodyTokens job ctx) := by
  apply readTokens_of_reads
  unfold generateScript bodyTokens
  simp only [String.toList_append, String.toList_join, List.flatMap_map, ← List.append_assoc]
  exact ((((((hheader.append (reads_exports job ctx)).append reads_newline).append
    reads_helperFunctions).append (reads_fetchFunction hurl)).append reads_newline).append
    (reads_phases job ctx)).append reads_controlBlock

/-- **The tokens of a build script.**  Read as a POSIX shell reads it, the script of a
job is its fixed skeleton: the header, one `export K=V` per exported variable, the
helper functions, the staging function, one function per phase with one
`buildq_step ARG || return $?` per command, and the control block.  Each `V` and each
`ARG` is one word whose characters all stand for themselves, and they are the value and
the command exactly.  This holds as long as the job identifier holds no newline (it is
written unquoted into a comment) and a repository to clone holds no `$`, backquote or
backslash (it is shown inside double quotes). -/
theorem generateScript_tokens (job : Job) (ctx : ScriptContext)
    (hid : '\n' ∉ job.id.toList)
    (hurl : ∀ url branch, ctx.source = .git url branch → ∀ c ∈ url.toList,
      c ≠ '$' ∧ c ≠ '`' ∧ c ≠ '\\') :
    readTokens (generateScript job ctx).toList = some (scriptTokens job ctx) := by
  rw [scriptTokens_eq]
  exact readTokens_generateScript (reads_scriptHeader hid) hurl

/-- A job whose repository is cloned on a branch, built with an upload command. -/
theorem generateScript_tokens_cloned :
    '\n' ∉ "build-7".toList ∧
      (∀ url branch, Staging.git "https://example.org/demo.git" (some "main") = .git url branch →
        ∀ c ∈ url.toList, c ≠ '$' ∧ c ≠ '`' ∧ c ≠ '\\') ∧
      readTokens (generateScript { id := "build-7", name := "demo", env := "A=1 B='x y'" }
          ⟨⟨"alice", "main"⟩, "worker-1", .git "https://example.org/demo.git" (some "main"),
            some "upload"⟩).toList =
        some (scriptTokens { id := "build-7", name := "demo", env := "A=1 B='x y'" }
          ⟨⟨"alice", "main"⟩, "worker-1", .git "https://example.org/demo.git" (some "main"),
            some "upload"⟩) := by
  have hurl : ∀ url branch, Staging.git "https://example.org/demo.git" (some "main") =
      .git url branch → ∀ c ∈ url.toList, c ≠ '$' ∧ c ≠ '`' ∧ c ≠ '\\' := by
    intro url branch h
    cases h
    have hall : ("https://example.org/demo.git".toList.all fun c => c != '$' && c != '`' && c != '\\') =
        true := by
      rw [toList_literal rfl]
      decide
    intro c hc
    simpa [and_assoc] using List.all_eq_true.mp hall c hc
  have hid : '\n' ∉ "build-7".toList := by
    rw [toList_literal rfl]
    decide
  exact ⟨hid, hurl, generateScript_tokens _ _ hid hurl⟩

/-- The first tokens of a script are those of its header. -/
theorem run_generateScript_prefix (job : Job) (ctx : ScriptContext) :
    ∃ rest, (run .between (generateScript job ctx).toList).2 =
      (run .between (scriptHeader job).toList).2 ++ rest := by
  obtain ⟨text, htext⟩ : ∃ text, (generateScript job ctx).toList = (scriptHeader job).toList ++ text := by
    unfold generateScript
    simp only [String.toList_append, List.append_assoc]
    exact ⟨_, rfl⟩
  rw [htext, run_append]
  exact ⟨_, rfl⟩

/-- **A newline in the job identifier injects commands.**  The identifier is written
unquoted into the header's comment, so whatever follows a newline in it is read as a
command of the script: here `echo injected`, before every line of the skeleton, whatever
the rest of the job and the context. -/
theorem newline_in_job_id_reads_as_command (job : Job) (ctx : ScriptContext)
    (hid : job.id = "c4\necho injected") :
    (∃ rest, (run .between (generateScript job ctx).toList).2 =
      [.newline, .newline, .text "echo", .text "injected", .newline, .newline] ++ rest) ∧
    readTokens (generateScript job ctx).toList ≠ some (scriptTokens job ctx) := by
  have hheader : (run .between (scriptHeader job).toList).2 =
      [.newline, .newline, .text "echo", .text "injected", .newline, .newline] := by
    unfold scriptHeader
    rw [hid]
    simp only [String.toList_append]
    repeat rw [toList_literal rfl]
    decide
  obtain ⟨rest, hrest⟩ := run_generateScript_prefix job ctx
  rw [hheader] at hrest
  refine ⟨⟨rest, hrest⟩, ?_⟩
  intro h
  unfold readTokens at h
  obtain ⟨last, -, hlast⟩ := Option.map_eq_some_iff.mp h
  rw [hrest] at hlast
  -- the third token is the injected command word, where the skeleton has a newline
  have hthird := congrArg (fun ts : List Token => ts[2]?) hlast
  simp [scriptTokens, headerTokens, Token.text] at hthird

/-- The injection on a job with no source to stage. -/
theorem newline_in_job_id_injects_commands :
    readTokens (generateScript
        { id := "c4\necho injected", name := "c4-name", buildNo := 1, platform := "linux-64",
          engine := "python", owner := "alice", package := "demo" }
        ⟨⟨"alice", "default"⟩, "worker-1", .noSource, none⟩).toList ≠
      some (scriptTokens
        { id := "c4\necho injected", name := "c4-name", buildNo := 1, platform := "linux-64",
          engine := "python", owner := "alice", package := "demo" }
        ⟨⟨"alice", "default"⟩, "worker-1", .noSource, none⟩) :=
  (newline_in_job_id_reads_as_command _ _ rfl).2

end BuildWorker
