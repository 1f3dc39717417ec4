import BuildWorker.Proofs.Script.Skeleton
import BuildWorker.Proofs.Script.Execution
/-!
# The commands of a build script

The tokens of a build script (`scriptTokens`) read, by the shell's grammar, as a fixed
list of commands, `scriptProgram`: one `export` per exported variable, the two helper
functions, the staging function, one function per phase, and the control block of three
`if`s and the hooks of a success.  Every job text in it is a word of its own (see
`generateScript_tokens`), so it is an argument of a command and never a command name
or a reserved word; this is why the grammar reads the same commands for every job.

The main fact is `parse_scriptTokens`.  Each part of the script is read by a lemma of
its own, from where a command may start back to where the next may start (`Lists`).
-/

set_option autoImplicit false

namespace BuildWorker

open Posix Posix.Grammar

/-! ## The commands -/

/-- A word of fixed text. -/
def fixedWord (s : String) : List Piece := literals s.toList

/-- A command of fixed words. -/
def fixedCommand (ws : List String) : Command := .simple (ws.map fixedWord)

/-- `export K=V`. -/
def exportCommand (key value : String) : Command :=
  fixedCommand ["export", key ++ "=" ++ value]

/-- The body of the function that writes a section marker. -/
def sectionBody : Command :=
  .group [.simple [fixedWord "echo", fixedWord sectionMarker ++ [firstArgument]]]

/-- The function that writes a section marker. -/
def sectionFunction : Command := .function "buildq_section" sectionBody

/-- The body of the function that echoes a command and evaluates it in a subshell. -/
def stepBody : Command :=
  .group [.simple [fixedWord "printf", fixedWord "+ %s\\n", [firstArgument]],
    .subshell [.simple [fixedWord "eval", [firstArgument]]]]

/-- The function that echoes a command and evaluates it in a subshell. -/
def stepFunction : Command := .function "buildq_step" stepBody

/-- `C || return $?`: a command that ends the function when it fails. -/
def orReturn (c : Command) : Command :=
  .join c .or (.simple [fixedWord "return", [lastStatus]])

/-- One step of a phase. -/
def stepCommand (command : String) : Command :=
  orReturn (fixedCommand ["buildq_step", command])

/-- The name of a phase's function. -/
def phaseFunctionName (phase : Phase) : String := "phase_" ++ phase.name

/-- The body of a phase's function. -/
def phaseBody (phase : Phase) (commands : List String) : Command :=
  .group (if commands.isEmpty then [fixedCommand [":"]]
    else fixedCommand ["buildq_section", phase.name] :: commands.map stepCommand)

/-- The function of a phase. -/
def phaseCommand (phase : Phase) (commands : List String) : Command :=
  .function (phaseFunctionName phase) (phaseBody phase commands)

/-- The words of a clone after `git` and its options. -/
def cloneWords (url : String) (branch : Option String) : List String :=
  ["clone", "--depth", "1"] ++
    (match branch with
     | some b => ["--branch", b]
     | none => []) ++
    [url, sourceDir]

/-- The word that expands the git token, or nothing when it is unset. -/
def tokenWord : List Piece :=
  [.expansion true (['$'] ++ lbrace.toList ++ "BUILD_GIT_OAUTH_TOKEN:-".toList ++ rbrace.toList)]

/-- The header that authorizes a clone with the git token. -/
def authorizationWord : List Piece :=
  fixedWord "http.extraHeader=Authorization: token " ++
    [.expansion true (['$'] ++ lbrace.toList ++ "BUILD_GIT_OAUTH_TOKEN".toList ++ rbrace.toList)]

/-- The message that announces a clone: the repository without its double quotes. -/
def cloningMessage (url : String) : String :=
  "Cloning " ++ String.ofList (url.toList.filter (· != '"'))

/-- The body of the staging function. -/
def fetchBody : Staging → Command
  | .noSource => .group [fixedCommand [":"]]
  | .tarball =>
      .group
        [fixedCommand ["echo", "Extracting build source"],
         .join (.join (fixedCommand ["mkdir", "-p", sourceDir]) .and
            (fixedCommand ["tar", "-xf", sourceTarball, "-C", sourceDir])) .and
          (fixedCommand ["cd", sourceDir])]
  | .git url branch =>
      .group
        [fixedCommand ["echo", cloningMessage url],
         .ifThen [.simple [fixedWord "[", fixedWord "-n", tokenWord, fixedWord "]"]]
           [orReturn (.simple ([fixedWord "git", fixedWord "-c", authorizationWord] ++
              (cloneWords url branch).map fixedWord))]
           (some [orReturn (fixedCommand ("git" :: cloneWords url branch))]),
         fixedCommand ["cd", sourceDir]]

/-- The staging function. -/
def fetchCommand (source : Staging) : Command := .function "buildq_fetch" (fetchBody source)

/-- `if C; then HOOK; phase_after_script; exit CODE; fi`. -/
def failureCommand (condition : Command) (hook : String) (code : Int) : Command :=
  .ifThen [condition]
    [fixedCommand [hook], fixedCommand ["phase_after_script"], fixedCommand ["exit", toString code]]
    none

/-- `! NAME`. -/
def failed (name : String) : Command := .bang (fixedCommand [name])

/-- The control block. -/
def controlCommands : List Command :=
  [failureCommand (failed "buildq_fetch") "phase_after_error" exitError,
   failureCommand (failed "phase_install") "phase_after_error" exitError,
   failureCommand (.join (.join (failed "phase_test") .or (failed "phase_before_script")) .or
      (failed "phase_script")) "phase_after_failure" exitFailure,
   fixedCommand ["phase_after_success"], fixedCommand ["phase_after_script"],
   fixedCommand ["exit", toString exitSuccess]]

/-- The commands of a job's script. -/
def scriptProgram (job : Job) (ctx : ScriptContext) : List Command :=
  (scriptExports job ctx).map (fun (k, v) => exportCommand k v) ++
  [sectionFunction, stepFunction, fetchCommand ctx.source] ++
  Phase.all.map (fun p => phaseCommand p (phaseCommands job ctx p)) ++
  controlCommands

/-! ## Reading lists of commands -/

/-- Tokens that, read where a command may start in any construct, are the given
commands and end where the next may start. -/
def Lists (ts : List Token) (cs : List Command) : Prop :=
  ∀ k ds fs, run (⟨k, ds, .start {}⟩ :: fs) ts = some (⟨k, cs.reverse ++ ds, .start {}⟩ :: fs)

theorem Lists.nil : Lists [] [] := fun _ _ _ => rfl

theorem Lists.append {ts us : List Token} {cs es : List Command} (first : Lists ts cs)
    (second : Lists us es) : Lists (ts ++ us) (cs ++ es) := by
  intro k ds fs
  rw [run_append_of (first k ds fs) (second k _ fs), List.reverse_append, List.append_assoc]

theorem Lists.flatMap {α : Type} (l : List α) (tokens : α → List Token)
    (commands : α → Command) (each : ∀ a ∈ l, Lists (tokens a) [commands a]) :
    Lists (l.flatMap tokens) (l.map commands) := by
  induction l with
  | nil => exact Lists.nil
  | cons a rest ih =>
      simp only [List.flatMap_cons, List.map_cons]
      exact (each a (by simp)).append (ih fun b hb => each b (by simp [hb]))

/-- A blank line is nothing. -/
theorem lists_newline : Lists [.newline] [] := fun _ _ _ => rfl

/-! ## The parts of the script -/

theorem lists_header : Lists headerTokens [] := fun _ _ _ => rfl

theorem lists_exportTokens (key value : String) :
    Lists (exportTokens key value) [exportCommand key value] := by
  intro k ds fs
  unfold exportTokens exportCommand fixedCommand fixedWord Token.text
  rw [toList_literal rfl]
  rfl

theorem lists_helperTokens : Lists helperTokens [sectionFunction, stepFunction] := by
  intro k ds fs
  unfold helperTokens lbrace rbrace sectionFunction stepFunction sectionBody stepBody fixedWord
  simp only [Token.text, Token.op]
  repeat rw [toList_literal rfl]
  rfl

theorem lists_stepTokens (command : String) :
    Lists (stepTokens command) [stepCommand command] := by
  intro k ds fs
  unfold stepTokens stepCommand orReturn fixedCommand fixedWord
  simp only [Token.text, Token.op, List.map_cons, List.map_nil]
  repeat rw [toList_literal rfl]
  rfl

/-- A function definition: its name, `( )`, and a group whose list is the body. -/
theorem lists_function {w : List Piece} {name : String} (hname : nameOf w = some name)
    (hplain : isPlain w = true) {body : List Token} {cs : List Command} (hbody : Lists body cs) :
    Lists ([.word w, .op "(", .op ")", .text lbrace] ++ body ++ [.text rbrace, .newline])
      [.function name (.group cs)] := by
  intro k ds fs
  have hopen : run (⟨k, ds, .start {}⟩ :: fs) [.word w, .op "(", .op ")", .text lbrace] =
      some (openFrame .group :: ⟨k, ds, .inner {} (some name)⟩ :: fs) := by
    rw [run_cons_of (step_start_plain hplain)]
    unfold lbrace Token.op Token.text
    repeat rw [toList_literal rfl]
    simp [Grammar.run, Grammar.step, hname, opens, isWord, openFrame]
  have hclose : run (⟨.group, cs.reverse ++ [], .start {}⟩ :: ⟨k, ds, .inner {} (some name)⟩ :: fs)
      [.text rbrace, .newline] = some (⟨k, [.function name (.group cs)].reverse ++ ds, .start {}⟩ :: fs) := by
    unfold rbrace Token.text
    rw [toList_literal rfl]
    simp [Grammar.run, Grammar.step, closeWord, isCloser, isWord, reduce, afterCommand, endCommand,
      Pending.close, Pending.isEmpty]
  exact run_append_of (run_append_of hopen (hbody .group [] _)) hclose

/-- The word of a phase function's name. -/
theorem phase_name_word (phase : Phase) :
    isPlain (literals ("phase_" ++ phase.name).toList) = true ∧
      nameOf (literals ("phase_" ++ phase.name).toList) = some ("phase_" ++ phase.name) := by
  have hname : isName ("phase_" ++ phase.name).toList = true := by
    cases phase <;> (unfold Phase.name; simp only [String.toList_append]; repeat rw [toList_literal rfl]
                     decide)
  refine ⟨?_, ?_⟩
  · rw [String.toList_append, toList_literal rfl, literals_append]
    exact isPlain_literal_cons _ (by decide)
  · rw [nameOf_literals hname, String.ofList_toList]

theorem lists_phaseTokens (phase : Phase) (commands : List String) :
    Lists (phaseTokens phase commands) [phaseCommand phase commands] := by
  obtain ⟨hplain, hname⟩ := phase_name_word phase
  unfold phaseTokens phaseCommand phaseBody phaseFunctionName
  split
  · -- no commands: the body is a no-op
    have hnoop : Lists [.text ":", .op ";"] [fixedCommand [":"]] := by
      intro k ds fs
      unfold Token.text Token.op fixedCommand fixedWord
      repeat rw [toList_literal rfl]
      rfl
    exact lists_function hname hplain hnoop
  · -- a section marker, then one step per command
    have hsection : Lists [.newline, .text "buildq_section", .text phase.name, .newline]
        [fixedCommand ["buildq_section", phase.name]] := by
      intro k ds fs
      unfold Token.text fixedCommand fixedWord
      repeat rw [toList_literal rfl]
      rfl
    have hsteps := Lists.flatMap commands stepTokens stepCommand fun c _ => lists_stepTokens c
    exact lists_function hname hplain (hsection.append hsteps)

theorem lists_fetchTokens (source : Staging) : Lists (fetchTokens source) [fetchCommand source] := by
  intro k ds fs
  cases source with
  | noSource =>
      unfold fetchTokens fetchCommand fetchBody fixedCommand fixedWord lbrace rbrace
      simp only [Token.text, Token.op, List.map_cons, List.map_nil]
      repeat rw [toList_literal rfl]
      rfl
  | tarball =>
      unfold fetchTokens fetchCommand fetchBody fixedCommand fixedWord lbrace rbrace sourceDir sourceTarball
      simp only [Token.text, Token.op, List.map_cons, List.map_nil]
      repeat rw [toList_literal rfl]
      rfl
  | git url branch =>
      -- the repository, the branch and the message are arguments, read as they are
      cases branch <;>
      · unfold fetchTokens fetchCommand fetchBody cloningMessage cloneTokens cloneWords orReturn fixedCommand
          fixedWord
          tokenWord authorizationWord lbrace rbrace sourceDir
        simp only [Token.text, Token.op, List.map_cons, List.map_nil,
          List.cons_append, List.nil_append, List.append_nil]
        repeat rw [toList_literal rfl]
        rfl

theorem lists_controlTokens : Lists controlTokens controlCommands := by
  intro k ds fs
  unfold controlTokens failureTokens controlCommands failureCommand failed fixedCommand fixedWord
  simp only [Token.text, Token.op, List.map_cons, List.map_nil, List.cons_append, List.nil_append]
  repeat rw [toList_literal rfl]
  rfl

/-- The commands of a script after its header. -/
theorem lists_bodyTokens (job : Job) (ctx : ScriptContext) :
    Lists (bodyTokens job ctx) (scriptProgram job ctx) := by
  have hexports : Lists ((scriptExports job ctx).flatMap fun (k, v) => exportTokens k v)
      ((scriptExports job ctx).map fun (k, v) => exportCommand k v) :=
    Lists.flatMap _ _ _ fun kv _ => lists_exportTokens kv.1 kv.2
  have hphases : Lists (Phase.all.flatMap fun p => phaseTokens p (phaseCommands job ctx p) ++ [.newline])
      (Phase.all.map fun p => phaseCommand p (phaseCommands job ctx p)) :=
    Lists.flatMap _ _ _ fun p _ => by
      simpa using (lists_phaseTokens p (phaseCommands job ctx p)).append lists_newline
  have h := ((((((hexports.append lists_newline).append lists_helperTokens).append
    (lists_fetchTokens ctx.source)).append lists_newline).append hphases).append lists_controlTokens)
  unfold bodyTokens scriptProgram
  simpa only [List.nil_append, List.append_nil, List.append_assoc, List.cons_append] using h

/-- **The commands of a build script.** -/
theorem lists_scriptTokens (job : Job) (ctx : ScriptContext) :
    Lists (scriptTokens job ctx) (scriptProgram job ctx) := by
  rw [scriptTokens_eq]
  simpa using lists_header.append (lists_bodyTokens job ctx)

/-- Tokens that read as a list of commands in any construct are a script of those
commands. -/
theorem parse_of_lists {ts : List Token} {cs : List Command} (h : Lists ts cs) :
    parse ts = some cs := by
  unfold parse scriptFrame openFrame
  rw [h .script [] []]
  simp [Grammar.finish, Pending.isEmpty]

theorem parse_scriptTokens (job : Job) (ctx : ScriptContext) :
    parse (scriptTokens job ctx) = some (scriptProgram job ctx) :=
  parse_of_lists (lists_scriptTokens job ctx)

end BuildWorker
