import BuildWorker.Proofs.Script.Phases
import BuildWorker.Proofs.Shell.QuotedWords
/-!
# A build script runs the phase machine

Reading and running the text of a job's script gives the calls and the exit status of
the phase machine (`phaseMachine`), for every job whose identifier holds no newline and
whose repository holds no `$`, backquote or backslash, and for every world: every
pattern in which the external commands succeed or fail (`script_runs_phases`).

The text reads as the commands of `scriptProgram` (`generateScript_tokens`,
`parse_scriptTokens`), and these run in three parts:

* the exports and the function definitions build the shell of the script,
  `scriptShell`, which has the variables exported and the functions defined, and has run
  nothing (`execList_setup`);
* the staging function runs as the machine's staging (`exec_fetchCall`), and each phase
  function as the machine's phase (`exec_phaseCall`);
* the control block chains them: each `if ! f; then HOOK; phase_after_script; exit N; fi`
  runs the hooks of a failure and exits when `f` failed, and does nothing else when it
  succeeded (`exec_failureCommand_taken`, `exec_failureCommand_skipped`); the condition of
  the build phases, `! phase_test || ! phase_before_script || ! phase_script`, runs them up
  to the first that fails (`exec_orFailed`, `exec_buildCondition`).

The fuel of a run bounds how deeply commands nest, not how many run; eleven levels are
enough for every build script.
-/

set_option autoImplicit false

namespace BuildWorker

open Posix Posix.Grammar

/-! ## The shell of a script -/

/-- The functions a build script defines, in order. -/
def scriptFunctions (job : Job) (ctx : ScriptContext) : List (String × Command) :=
  [("buildq_section", sectionBody), ("buildq_step", stepBody), ("buildq_fetch", fetchBody ctx.source)] ++
    Phase.all.map fun p => (phaseFunctionName p, phaseBody p (phaseCommands job ctx p))

/-- The shell once a build script has exported its variables and defined its functions. -/
def scriptShell (job : Job) (ctx : ScriptContext) : Shell where
  vars := (scriptExports job ctx).reverse
  functions := (scriptFunctions job ctx).reverse

theorem isName_eq_isVariableName (cs : List Char) : isName cs = Shell.isVariableName cs := by
  cases cs <;> rfl

/-- `export K=V`, for a variable name `K`, sets `K` to `V`. -/
theorem exec_exportCommand (world : World) (n : Nat) (sh : Shell) {key : String} (value : String)
    (hkey : Shell.isVariableName key.toList = true) :
    exec world (n + 1) sh (exportCommand key value) =
      some ({ sh with vars := (key, value) :: sh.vars, status := 0 }, .next) := by
  have hset : sh.exportVars [key ++ "=" ++ value] =
      some { sh with vars := (key, value) :: sh.vars } := by
    have hchars : (key ++ "=" ++ value).toList = key.toList ++ '=' :: value.toList := by simp
    rw [Shell.exportVars, hchars, Shell.span_of_isVariableName hkey]
    simp [isName_eq_isVariableName, hkey, Shell.exportVars]
  rw [exportCommand, fixedCommand, exec_export (expandWords_fixed _ _) hset]

/-- The exports, one after the other, each set its variable. -/
theorem execList_exports (world : World) (n : Nat) (exports : List (String × String))
    (hnames : ∀ kv ∈ exports, Shell.isVariableName kv.1.toList = true) :
    ∀ sh : Shell, sh.status = 0 →
      execList (exec world (n + 1)) sh (exports.map fun (k, v) => exportCommand k v) =
        some ({ sh with vars := exports.reverse ++ sh.vars }, .next) := by
  induction exports with
  | nil => intro sh _; rfl
  | cons kv rest ih =>
      intro sh hstatus
      obtain ⟨k, v⟩ := kv
      have hk := hnames (k, v) (by simp)
      rw [List.map_cons, execList_cons_next _ (exec_exportCommand world n sh v hk),
        ih (fun kv h => hnames kv (by simp [h])) _ rfl]
      simp [hstatus]

/-- The definitions, one after the other, each define their function. -/
theorem execList_functions (world : World) (n : Nat) (defs : List (String × Command)) :
    ∀ sh : Shell, sh.status = 0 →
      execList (exec world (n + 1)) sh (defs.map fun d => .function d.1 d.2) =
        some ({ sh with functions := defs.reverse ++ sh.functions }, .next) := by
  induction defs with
  | nil => intro sh _; rfl
  | cons d rest ih =>
      intro sh hstatus
      rw [List.map_cons, execList_cons_next _ (exec_function world n sh d.1 d.2), ih _ rfl]
      simp [hstatus]

/-- **The exports and the definitions build the shell of the script**, and run nothing
else. -/
theorem execList_setup (world : World) (n : Nat) (job : Job) (ctx : ScriptContext) :
    execList (exec world (n + 1)) {}
      ((scriptExports job ctx).map (fun (k, v) => exportCommand k v) ++
        [sectionFunction, stepFunction, fetchCommand ctx.source] ++
        Phase.all.map (fun p => phaseCommand p (phaseCommands job ctx p))) =
      some (scriptShell job ctx, .next) := by
  have hdefs : [sectionFunction, stepFunction, fetchCommand ctx.source] ++
      Phase.all.map (fun p => phaseCommand p (phaseCommands job ctx p)) =
      (scriptFunctions job ctx).map fun d => .function d.1 d.2 := by
    simp [scriptFunctions, sectionFunction, stepFunction, fetchCommand, phaseCommand]
  rw [List.append_assoc, hdefs,
    execList_append_next _ (execList_exports world n _ (scriptExports_isVariableName job ctx) {} rfl),
    execList_functions world n _ _ rfl]
  simp [scriptShell]

namespace ScriptShell

variable (job : Job) (ctx : ScriptContext)

theorem helpers : Helpers (scriptShell job ctx) where
  sectionDefined := by
    simp [Shell.function?, scriptShell, scriptFunctions, Phase.all, phaseFunctionName, Phase.name]
  stepDefined := by
    simp [Shell.function?, scriptShell, scriptFunctions, Phase.all, phaseFunctionName, Phase.name]
  externals := by
    simp [externalNames, Shell.function?, scriptShell, scriptFunctions, Phase.all, phaseFunctionName,
      Phase.name]

theorem fetchDefined : (scriptShell job ctx).function? "buildq_fetch" = some (fetchBody ctx.source) := by
  simp [Shell.function?, scriptShell, scriptFunctions, Phase.all, phaseFunctionName, Phase.name]

theorem phaseDefined (phase : Phase) :
    (scriptShell job ctx).function? (phaseFunctionName phase) =
      some (phaseBody phase (phaseCommands job ctx phase)) := by
  cases phase <;>
    simp [Shell.function?, scriptShell, scriptFunctions, Phase.all, phaseFunctionName, Phase.name]

theorem calls : (scriptShell job ctx).calls = [] := rfl

end ScriptShell

/-! ## Calls and external commands -/

theorem execList_singleton (run : Shell → Command → Option (Shell × Flow)) (sh : Shell)
    (c : Command) : execList run sh [c] = run sh c := by
  cases hc : run sh c with
  | none => simp [execList, hc]
  | some r =>
      obtain ⟨sh', flow⟩ := r
      by_cases hflow : flow = .next
      · subst hflow
        simp [execList, hc]
      · simp [execList, hc, hflow]

/-- A call whose body changes only the calls and the status, and does not exit, ends
normally with the same changes. -/
theorem exec_call_record {world : World} {n : Nat} {sh : Shell} {words : List (List Piece)}
    {name : String} {args : List String} {body : Command} {r : Calls × UInt8} {flow : Flow}
    (hwords : sh.expandWords words = some (name :: args)) (hname : name ∉ specialBuiltins)
    (hfun : sh.function? name = some body)
    (hbody : exec world n { sh with args := args } body =
      some (({ sh with args := args } : Shell).record r, flow))
    (hflow : flow ≠ .exited) :
    exec world (n + 1) sh (.simple words) = some (sh.record r, .next) := by
  rw [exec_call hwords hname hfun, hbody]
  simp [hflow, Shell.record]

theorem externalNames_not_builtin : ∀ name ∈ externalNames, name ∉ specialBuiltins := by decide

/-- An external command of a build script: the world gives its status. -/
theorem Helpers.exec_fixed {sh : Shell} (h : Helpers sh) (world : World) (n : Nat) {name : String}
    (hname : name ∈ externalNames) (args : List String) :
    exec world (n + 1) sh (fixedCommand (name :: args)) =
      some (sh.record (sh.calls ++ [name :: args], world sh.calls (name :: args)), .next) :=
  exec_external (expandWords_fixed _ _) (externalNames_not_builtin name hname) (h.externals name hname)

/-- `C && E`, for an external `E`: `E` runs when `C` succeeded. -/
theorem Helpers.exec_andThen {sh : Shell} (h : Helpers sh) {world : World} {n : Nat} {c : Command}
    {r : Calls × UInt8} (hc : exec world (n + 1) sh c = some (sh.record r, .next)) {name : String}
    (hname : name ∈ externalNames) (args : List String) :
    exec world (n + 2) sh (.join c .and (fixedCommand (name :: args))) =
      some (sh.record (andThen world r (name :: args)), .next) := by
  rw [exec_join_next .and _ hc]
  by_cases hs : r.2 = 0
  · simp [Connector.continues, hs, (h.record r).exec_fixed world n hname, andThen]
  · simp [Connector.continues, hs, andThen]

/-! ## Staging -/

/-- The name of the variable that holds the git token. -/
def tokenName : String := "BUILD_GIT_OAUTH_TOKEN"

theorem ScriptShell.token (job : Job) (ctx : ScriptContext) :
    (scriptShell job ctx).lookup tokenName =
      exportedValue (scriptExports job ctx) "BUILD_GIT_OAUTH_TOKEN" := rfl

theorem expandWord_tokenWord (sh : Shell) :
    sh.expandWord tokenWord = some (sh.lookup tokenName).toList := by
  simp +decide [tokenWord, tokenName, lbrace, rbrace, Shell.expandWord, Shell.parameter, Shell.braced]
  -- an empty value and no value read the same
  split <;> simp_all

theorem expandWord_authorizationWord (sh : Shell) :
    sh.expandWord authorizationWord =
      some ("http.extraHeader=Authorization: token " ++ sh.lookup tokenName).toList := by
  simp +decide [authorizationWord, tokenName, fixedWord, lbrace, rbrace, Shell.expandWord,
    Shell.parameter, Shell.braced]

/-- The command that clones the repository, with the token's header or without. -/
def cloneCommand (withToken : Bool) (url : String) (branch : Option String) : Command :=
  if withToken then
    .simple ([fixedWord "git", fixedWord "-c", authorizationWord] ++ (cloneWords url branch).map fixedWord)
  else fixedCommand ("git" :: cloneWords url branch)

/-- The test of the token, `[ -n "${BUILD_GIT_OAUTH_TOKEN:-}" ]`. -/
def tokenTestCommand : Command :=
  .simple [fixedWord "[", fixedWord "-n", tokenWord, fixedWord "]"]

theorem Helpers.exec_tokenTest {sh : Shell} (h : Helpers sh) (world : World) (n : Nat) :
    exec world (n + 1) sh tokenTestCommand =
      some (sh.record (sh.calls ++ [tokenTest (sh.lookup tokenName)],
        world sh.calls (tokenTest (sh.lookup tokenName))), .next) := by
  have hwords : sh.expandWords [fixedWord "[", fixedWord "-n", tokenWord, fixedWord "]"] =
      some (tokenTest (sh.lookup tokenName)) := by
    simp [Shell.expandWords, expandWord_fixedWord, expandWord_tokenWord, tokenTest]
  exact exec_external hwords (by decide) (h.externals "[" (by decide))

theorem Helpers.exec_cloneCommand {sh : Shell} (h : Helpers sh) (world : World) (n : Nat)
    (withToken : Bool) (url : String) (branch : Option String) :
    exec world (n + 1) sh (cloneCommand withToken url branch) =
      some (sh.record (sh.calls ++ [cloneCall (sh.lookup tokenName) withToken url branch],
        world sh.calls (cloneCall (sh.lookup tokenName) withToken url branch)), .next) := by
  cases withToken with
  | false => exact h.exec_fixed world n (by decide) _
  | true =>
      have hauth : (sh.expandWord authorizationWord).map String.ofList =
          some ("http.extraHeader=Authorization: token " ++ sh.lookup tokenName) := by
        rw [expandWord_authorizationWord, Option.map_some, String.ofList_toList]
      have hwords : sh.expandWords
          ([fixedWord "git", fixedWord "-c", authorizationWord] ++ (cloneWords url branch).map fixedWord) =
          some (cloneCall (sh.lookup tokenName) true url branch) := by
        have hclone := expandWords_fixed sh (cloneWords url branch)
        simp only [Shell.expandWords] at hclone
        simp [Shell.expandWords, expandWord_fixedWord, hauth, hclone, cloneCall]
      exact exec_external hwords (by decide) (h.externals "git" (by decide))

/-- The test of the token and the clone it chooses: the calls, and the clone's status. -/
def clonePick (world : World) (token url : String) (branch : Option String) (calls : Calls) :
    Calls × UInt8 :=
  let tested := calls ++ [tokenTest token]
  let clone := cloneCall token (world calls (tokenTest token) == 0) url branch
  (tested ++ [clone], world tested clone)

theorem cloneRun_eq_andThen (world : World) (token url : String) (branch : Option String)
    (calls : Calls) :
    cloneRun world token url branch calls = andThen world (clonePick world token url branch calls) cdCall :=
  rfl

/-- The choice of clone: with the token's header when the test of the token succeeded;
a clone that fails ends the function. -/
theorem Helpers.exec_cloneChoice {sh : Shell} (h : Helpers sh) (world : World) (n : Nat)
    (url : String) (branch : Option String) :
    exec world (n + 4) sh (.ifThen [tokenTestCommand] [orReturn (cloneCommand true url branch)]
        (some [orReturn (cloneCommand false url branch)])) =
      some (sh.record (clonePick world (sh.lookup tokenName) url branch sh.calls),
        if (clonePick world (sh.lookup tokenName) url branch sh.calls).2 = 0 then .next
        else .returned) := by
  rw [exec_ifThen, execList_singleton, h.exec_tokenTest world (n + 2), Option.bind_some]
  -- the test chose the clone; the clone ends the function when it fails
  have hclone : ∀ withToken,
      exec world (n + 3) (sh.record (sh.calls ++ [tokenTest (sh.lookup tokenName)],
          world sh.calls (tokenTest (sh.lookup tokenName))))
        (orReturn (cloneCommand withToken url branch)) =
      some (sh.record (sh.calls ++ [tokenTest (sh.lookup tokenName)] ++
            [cloneCall (sh.lookup tokenName) withToken url branch],
          world (sh.calls ++ [tokenTest (sh.lookup tokenName)])
            (cloneCall (sh.lookup tokenName) withToken url branch)),
        if world (sh.calls ++ [tokenTest (sh.lookup tokenName)])
            (cloneCall (sh.lookup tokenName) withToken url branch) = 0 then .next
        else .returned) := fun withToken => by
    have hrun := exec_orReturn world (n + 1)
      ((h.record (sh.calls ++ [tokenTest (sh.lookup tokenName)],
        world sh.calls (tokenTest (sh.lookup tokenName)))).exec_cloneCommand world (n + 1) withToken url branch)
    simp only [Shell.record_record, Shell.record_calls, Shell.record_lookup] at hrun
    exact hrun
  by_cases htest : world sh.calls (tokenTest (sh.lookup tokenName)) = 0
  · have hrun := hclone true
    rw [htest] at hrun
    simp [htest, execList_singleton, hrun, clonePick]
  · have hfalse : (world sh.calls (tokenTest (sh.lookup tokenName)) == 0) = false := by
      simpa using htest
    simp [htest, hfalse, execList_singleton, hclone false, clonePick]

theorem fetchBody_git (url : String) (branch : Option String) :
    fetchBody (.git url branch) =
      .group [fixedCommand ["echo", cloningMessage url],
        .ifThen [tokenTestCommand] [orReturn (cloneCommand true url branch)]
          (some [orReturn (cloneCommand false url branch)]),
        fixedCommand ["cd", sourceDir]] := rfl

/-- **The staging function runs as the machine's staging**, and does not exit. -/
theorem Helpers.exec_fetchBody {sh : Shell} (h : Helpers sh) (world : World) (n : Nat)
    (source : Staging) :
    ∃ flow, flow ≠ .exited ∧ exec world (n + 6) sh (fetchBody source) =
      some (sh.record (stagingRun world (sh.lookup tokenName) sh.calls source), flow) := by
  cases source with
  | noSource =>
      refine ⟨.next, by decide, ?_⟩
      rw [fetchBody, exec_group, execList_singleton, fixedCommand, exec_colon (expandWords_fixed _ _)]
      rfl
  | tarball =>
      refine ⟨.next, by decide, ?_⟩
      rw [fetchBody, exec_group,
        execList_cons_next _ (h.exec_fixed world (n + 4) (by decide : "echo" ∈ externalNames) _),
        execList_singleton]
      -- `mkdir && tar && cd`, each after the one before succeeded
      have h₁ := h.record (sh.calls ++ [["echo", "Extracting build source"]],
        world sh.calls ["echo", "Extracting build source"])
      have hmkdir := h₁.exec_fixed world (n + 2) (by decide : "mkdir" ∈ externalNames) ["-p", sourceDir]
      rw [h₁.exec_andThen (h₁.exec_andThen hmkdir (by decide : "tar" ∈ externalNames)
        ["-xf", sourceTarball, "-C", sourceDir]) (by decide : "cd" ∈ externalNames) [sourceDir]]
      simp [stagingRun, unpackRun, mkdirCall, tarCall, cdCall]
  | git url branch =>
      have h₁ := h.record (sh.calls ++ [["echo", cloningMessage url]],
        world sh.calls ["echo", cloningMessage url])
      have hchoice := h₁.exec_cloneChoice world (n + 1) url branch
      rw [Shell.record_calls, Shell.record_lookup, Shell.record_record] at hchoice
      rw [fetchBody_git, exec_group,
        execList_cons_next _ (h.exec_fixed world (n + 4) (by decide : "echo" ∈ externalNames) _)]
      by_cases hclone :
          (clonePick world (sh.lookup tokenName) url branch (sh.calls ++ [["echo", cloningMessage url]])).2 = 0
      · -- the clone succeeded: `cd` follows
        refine ⟨.next, by decide, ?_⟩
        rw [if_pos hclone] at hchoice
        rw [execList_cons_next _ hchoice, execList_singleton,
          (h.record _).exec_fixed world (n + 4) (by decide : "cd" ∈ externalNames) _]
        simp [stagingRun, cloneRun_eq_andThen, andThen, hclone, cdCall]
      · -- the clone failed: the function ends with its status
        refine ⟨.returned, by decide, ?_⟩
        rw [if_neg hclone] at hchoice
        rw [execList_cons_stop _ hchoice (by decide)]
        simp [stagingRun, cloneRun_eq_andThen, andThen, hclone]

/-- **The staging function, called, runs as the machine's staging.** -/
theorem Helpers.exec_fetchCall {sh : Shell} (h : Helpers sh) (world : World) (n : Nat)
    {source : Staging} (hfun : sh.function? "buildq_fetch" = some (fetchBody source)) :
    exec world (n + 7) sh (fixedCommand ["buildq_fetch"]) =
      some (sh.record (stagingRun world (sh.lookup tokenName) sh.calls source), .next) := by
  have hcalled : Helpers { sh with args := [] } := ⟨h.sectionDefined, h.stepDefined, h.externals⟩
  obtain ⟨flow, hflow, hbody⟩ := hcalled.exec_fetchBody world n source
  exact exec_call_record (expandWords_fixed _ _) (by decide) hfun hbody hflow

/-! ## The control block -/

/-- `! f`, for a call `f` that ends normally: its status, inverted. -/
theorem exec_failed {world : World} {n : Nat} {sh : Shell} {name : String} {r : Calls × UInt8}
    (hcall : exec world n sh (fixedCommand [name]) = some (sh.record r, .next)) :
    exec world (n + 1) sh (failed name) =
      some (sh.record (r.1, if r.2 = 0 then 1 else 0), .next) := by
  rw [failed, exec_bang_next hcall]
  rfl

/-- The calls of the build phases, and the status of `! p₁ || ! p₂ || …` over them: 0
exactly when one of them failed. -/
def failedRun (world : World) (job : Job) (ctx : ScriptContext) (calls : Calls) (phases : List Phase) :
    Calls × UInt8 :=
  ((buildRun world job ctx calls phases).1,
    if (buildRun world job ctx calls phases).2 = 0 then 1 else 0)

/-- One more build phase runs when those before it succeeded. -/
theorem buildRun_append (world : World) (job : Job) (ctx : ScriptContext) (p : Phase) :
    ∀ (calls : Calls) (phases : List Phase),
      buildRun world job ctx calls (phases ++ [p]) =
        if (buildRun world job ctx calls phases).2 = 0 then
          phaseRun world (buildRun world job ctx calls phases).1 p (phaseCommands job ctx p)
        else buildRun world job ctx calls phases
  | calls, [] => by
      by_cases hp : (phaseRun world calls p (phaseCommands job ctx p)).2 = 0
      · simp only [List.nil_append, buildRun, hp, if_true]
        exact Prod.ext rfl hp.symm
      · simp [buildRun, hp]
  | calls, q :: qs => by
      by_cases hq : (phaseRun world calls q (phaseCommands job ctx q)).2 = 0
      · simp only [List.cons_append, buildRun, hq, if_true]
        exact buildRun_append world job ctx p _ qs
      · simp [buildRun, hq]

/-- `C || ! p`, where `C` has run the build phases before `p`: `p` runs when they all
succeeded. -/
theorem Helpers.exec_orFailed {sh : Shell} (h : Helpers sh) (world : World) (n : Nat) {job : Job}
    {ctx : ScriptContext}
    (hfun : ∀ p, sh.function? (phaseFunctionName p) = some (phaseBody p (phaseCommands job ctx p)))
    {c : Command} {phases : List Phase}
    (hc : exec world (n + 8) sh c = some (sh.record (failedRun world job ctx sh.calls phases), .next))
    (p : Phase) :
    exec world (n + 9) sh (.join c .or (failed (phaseFunctionName p))) =
      some (sh.record (failedRun world job ctx sh.calls (phases ++ [p])), .next) := by
  by_cases hpassed : (buildRun world job ctx sh.calls phases).2 = 0
  · -- all passed so far: `p` runs
    have hstate : failedRun world job ctx sh.calls phases =
        ((buildRun world job ctx sh.calls phases).1, 1) := by
      simp [failedRun, hpassed]
    rw [hstate] at hc
    have hcall := exec_failed (exec_phaseCall world n
      (h.record ((buildRun world job ctx sh.calls phases).1, 1)) p (phaseCommands job ctx p)
      (by simpa using hfun p))
    rw [Shell.record_calls, Shell.record_record] at hcall
    rw [exec_join_next .or _ hc, Shell.record_status]
    simp only [Connector.continues, show ((1 : UInt8) != 0) = true by decide, if_true]
    rw [hcall]
    simp [failedRun, buildRun_append, hpassed]
  · -- one failed: the condition holds, and nothing more runs
    rw [exec_join_next .or _ hc]
    simp [Connector.continues, failedRun, hpassed, buildRun_append]

/-- `! phase_test || ! phase_before_script || ! phase_script`. -/
def buildCondition : Command :=
  .join (.join (failed (phaseFunctionName .test)) .or (failed (phaseFunctionName .beforeScript))) .or
    (failed (phaseFunctionName .script))

/-- **The condition of the build phases runs them**, up to the first that fails, and holds
exactly when one failed. -/
theorem Helpers.exec_buildCondition {sh : Shell} (h : Helpers sh) (world : World) (n : Nat)
    {job : Job} {ctx : ScriptContext}
    (hfun : ∀ p, sh.function? (phaseFunctionName p) = some (phaseBody p (phaseCommands job ctx p))) :
    exec world (n + 10) sh buildCondition =
      some (sh.record (failedRun world job ctx sh.calls [.test, .beforeScript, .script]), .next) := by
  have htest : exec world (n + 8) sh (failed (phaseFunctionName .test)) =
      some (sh.record (failedRun world job ctx sh.calls [.test]), .next) := by
    rw [exec_failed (exec_phaseCall world n h .test _ (hfun .test))]
    have hone : buildRun world job ctx sh.calls [.test] =
        phaseRun world sh.calls .test (phaseCommands job ctx .test) := by
      have happend := buildRun_append world job ctx .test sh.calls []
      simp only [List.nil_append, buildRun.eq_1] at happend
      simpa using happend
    simp [failedRun, hone]
  exact h.exec_orFailed world (n + 1) hfun (h.exec_orFailed world n hfun htest .beforeScript) .script

/-- `if C; then …; fi`, when `C` ends normally and fails: nothing more runs. -/
theorem exec_failureCommand_skipped {world : World} {n : Nat} {sh : Shell} {cond : Command}
    {r : Calls × UInt8} (hcond : exec world n sh cond = some (sh.record r, .next)) (hr : r.2 ≠ 0)
    (hook : String) (code : Int) :
    exec world (n + 1) sh (failureCommand cond hook code) = some (sh.record (r.1, 0), .next) := by
  rw [failureCommand, exec_ifThen, execList_singleton, hcond]
  simp [hr, Shell.record]

/-- `if C; then HOOK; phase_after_script; exit N; fi`, when `C` succeeds: the then part
runs. -/
theorem exec_failureCommand_taken {world : World} {n : Nat} {sh : Shell} {cond : Command}
    {calls : Calls} (hcond : exec world n sh cond = some (sh.record (calls, 0), .next))
    (hook : String) (code : Int) :
    exec world (n + 1) sh (failureCommand cond hook code) =
      execList (exec world n) (sh.record (calls, 0))
        [fixedCommand [hook], fixedCommand ["phase_after_script"], fixedCommand ["exit", toString code]] := by
  rw [failureCommand, exec_ifThen, execList_singleton, hcond]
  simp

/-- The hooks of an end, `after_script` last, then `exit N`: the shell ends with status `N`,
whatever the hooks did. -/
theorem Helpers.execList_hooksExit {sh : Shell} (h : Helpers sh) (world : World) (n : Nat)
    {job : Job} {ctx : ScriptContext}
    (hfun : ∀ p, sh.function? (phaseFunctionName p) = some (phaseBody p (phaseCommands job ctx p)))
    (hook : Phase) (code : Int) (hcode : (toString code).toNat? = some code.toNat) :
    execList (exec world (n + 7)) sh
        [fixedCommand [phaseFunctionName hook], fixedCommand ["phase_after_script"],
          fixedCommand ["exit", toString code]] =
      some (sh.record (hooksRun world job ctx sh.calls [hook, .afterScript], exitStatus code), .exited) := by
  have hhook := exec_phaseCall world n h hook _ (hfun hook)
  have hafter := exec_phaseCall world n (h.record (phaseRun world sh.calls hook (phaseCommands job ctx hook)))
    .afterScript _ (by simpa using hfun .afterScript)
  rw [show "phase_after_script" = phaseFunctionName .afterScript from rfl, execList_cons_next _ hhook,
    execList_cons_next _ hafter, execList_singleton, fixedCommand, exec_exit (expandWords_fixed _ _) hcode]
  simp [hooksRun, exitStatus, Shell.record]

theorem exitSuccess_toNat? : (toString exitSuccess).toNat? = some exitSuccess.toNat := Nat.toNat?_repr 0
theorem exitError_toNat? : (toString exitError).toNat? = some exitError.toNat := Nat.toNat?_repr 11
theorem exitFailure_toNat? : (toString exitFailure).toNat? = some exitFailure.toNat := Nat.toNat?_repr 12

theorem controlCommands_eq :
    controlCommands =
      [failureCommand (failed "buildq_fetch") (phaseFunctionName .afterError) exitError,
       failureCommand (failed (phaseFunctionName .install)) (phaseFunctionName .afterError) exitError,
       failureCommand buildCondition (phaseFunctionName .afterFailure) exitFailure,
       fixedCommand [phaseFunctionName .afterSuccess], fixedCommand ["phase_after_script"],
       fixedCommand ["exit", toString exitSuccess]] := rfl

/-- **The control block runs the phase machine**, from the shell of the script, and ends
the shell with the machine's status. -/
theorem execList_controlCommands (world : World) (n : Nat) (job : Job) (ctx : ScriptContext) :
    execList (exec world (n + 11)) (scriptShell job ctx) controlCommands =
      some ((scriptShell job ctx).record (phaseMachine world job ctx), .exited) := by
  have h := ScriptShell.helpers job ctx
  have hfun := ScriptShell.phaseDefined job ctx
  have hfetch := exec_failed (h.exec_fetchCall world (n + 2) (ScriptShell.fetchDefined job ctx))
  rw [ScriptShell.token, ScriptShell.calls] at hfetch
  rw [controlCommands_eq]
  simp only [phaseMachine]
  generalize stagingRun world (exportedValue (scriptExports job ctx) "BUILD_GIT_OAUTH_TOKEN") []
    ctx.source = staged at hfetch ⊢
  by_cases hs : staged.2 = 0
  swap
  · -- staging failed: the hooks of an error
    rw [if_neg hs] at hfetch
    have herror := (h.record (staged.1, 0)).execList_hooksExit world (n + 3) (by simpa using hfun)
      .afterError exitError exitError_toNat?
    rw [execList_cons_stop _ ((exec_failureCommand_taken hfetch _ _).trans herror) (by decide)]
    simp [hs]
  rw [if_pos hs] at hfetch
  rw [execList_cons_next _ (exec_failureCommand_skipped hfetch (show (1 : UInt8) ≠ 0 by decide) _ _)]
  -- install
  have h₁ := h.record (staged.1, 0)
  have hinstall := exec_failed (exec_phaseCall world (n + 2) h₁ .install _ (by simpa using hfun .install))
  rw [Shell.record_calls, Shell.record_record] at hinstall
  generalize phaseRun world staged.1 .install (phaseCommands job ctx .install) = installed at hinstall ⊢
  by_cases hi : installed.2 = 0
  swap
  · -- install failed: the hooks of an error
    rw [if_neg hi] at hinstall
    have herror := (h.record (installed.1, 0)).execList_hooksExit world (n + 3) (by simpa using hfun)
      .afterError exitError exitError_toNat?
    rw [execList_cons_stop _ ((exec_failureCommand_taken hinstall _ _).trans herror) (by decide)]
    simp [hs, hi]
  rw [if_pos hi] at hinstall
  rw [execList_cons_next _ (exec_failureCommand_skipped hinstall (show (1 : UInt8) ≠ 0 by decide) _ _),
    Shell.record_record]
  -- the build phases
  have hbuild := (h.record (installed.1, 0)).exec_buildCondition world n (by simpa using hfun)
  rw [Shell.record_calls, Shell.record_record, failedRun] at hbuild
  generalize buildRun world job ctx installed.1 [.test, .beforeScript, .script] = built at hbuild ⊢
  by_cases hb : built.2 = 0
  swap
  · -- a build phase failed: the hooks of a failure
    rw [if_neg hb] at hbuild
    have hfailure := (h.record (built.1, 0)).execList_hooksExit world (n + 3) (by simpa using hfun)
      .afterFailure exitFailure exitFailure_toNat?
    rw [execList_cons_stop _ ((exec_failureCommand_taken hbuild _ _).trans hfailure) (by decide)]
    simp [hs, hi, hb]
  -- every phase passed: the hooks of a success
  rw [if_pos hb] at hbuild
  rw [execList_cons_next _ (exec_failureCommand_skipped hbuild (show (1 : UInt8) ≠ 0 by decide) _ _),
    Shell.record_record, (h.record (built.1, 0)).execList_hooksExit world (n + 4) (by simpa using hfun)
      .afterSuccess exitSuccess exitSuccess_toNat?]
  simp [hs, hi, hb]

/-- **A build script's commands run as the phase machine.** -/
theorem runScript_scriptProgram (world : World) (n : Nat) (job : Job) (ctx : ScriptContext) :
    runScript world (n + 11) (scriptProgram job ctx) = some (phaseMachine world job ctx) := by
  rw [runScript, scriptProgram, execList_append_next _ (execList_setup world (n + 10) job ctx),
    execList_controlCommands]
  rfl

/-- **A build script runs the phase machine.**  For every job whose identifier holds no
newline and whose repository, when it is cloned, holds no `$`, backquote or backslash,
and for every world, reading and running the text of the job's script makes the calls of
the phase machine and exits with its status: the source is staged; `install`, `test`,
`before_script` and `script` run in order, each up to its first failing command, until a
phase fails; exactly one of `after_error`, `after_failure` and `after_success` (with the
uploads) follows, then `after_script`; and the script exits with 11, 12 or 0. -/
theorem script_runs_phases (world : World) (job : Job) (ctx : ScriptContext)
    (hid : '\n' ∉ job.id.toList)
    (hurl : ∀ url branch, ctx.source = .git url branch → ∀ c ∈ url.toList,
      c ≠ '$' ∧ c ≠ '`' ∧ c ≠ '\\')
    (n : Nat) :
    runText world (n + 11) (generateScript job ctx) = some (phaseMachine world job ctx) := by
  rw [runText, generateScript_tokens job ctx hid hurl, Option.bind_some, parse_scriptTokens,
    Option.bind_some, runScript_scriptProgram]

/-- A job that unpacks a tarball and installs with one command, in a world where only that
command fails. -/
theorem script_runs_phases_failed_install :
    let job : Job := { id := "c2", name := "c2-name", instructions := { install := some (.single "make") } }
    let ctx : ScriptContext := ⟨⟨"alice", "default"⟩, "worker-1", .tarball, none⟩
    let world : World := fun _ argv => if argv = ["eval", "make"] then 1 else 0
    '\n' ∉ job.id.toList ∧
      (∀ url branch, ctx.source = .git url branch → ∀ c ∈ url.toList,
        c ≠ '$' ∧ c ≠ '`' ∧ c ≠ '\\') ∧
      runText world 11 (generateScript job ctx) = some (phaseMachine world job ctx) := by
  intro job ctx world
  have hid : '\n' ∉ job.id.toList := by
    rw [toList_literal rfl]
    decide
  have hurl : ∀ url branch, ctx.source = .git url branch → ∀ c ∈ url.toList,
      c ≠ '$' ∧ c ≠ '`' ∧ c ≠ '\\' := by
    intro url branch h
    cases h
  exact ⟨hid, hurl, script_runs_phases world job ctx hid hurl 0⟩

/-! ## A newline in the job identifier -/

/-- The machine exits with 11, 12 or 0, whatever the hooks do. -/
theorem phaseMachine_status (world : World) (job : Job) (ctx : ScriptContext) :
    (phaseMachine world job ctx).2 = exitStatus exitError ∨
      (phaseMachine world job ctx).2 = exitStatus exitFailure ∨
      (phaseMachine world job ctx).2 = exitStatus exitSuccess := by
  simp only [phaseMachine]
  split_ifs <;> simp

/-- A job whose identifier ends the header's comment with the line `exit 7`. -/
def injectedExitJob : Job :=
  { id := "c2\nexit 7", name := "c2-name", buildNo := 1, platform := "linux-64", engine := "python",
    owner := "alice", package := "demo",
    instructions :=
      { install := some (.single "echo ran-install"),
        afterSuccess := some (.single "echo ran-after_success"),
        afterScript := some (.single "echo ran-after_script") } }

/-- The context of that job's script: no source to stage, no upload. -/
def injectedExitContext : ScriptContext := ⟨⟨"alice", "default"⟩, "worker-1", .noSource, none⟩

theorem reads_injectedExitHeader :
    Reads (scriptHeader injectedExitJob).toList
      [.newline, .newline, .text "exit", .text "7", .newline, .newline] := by
  unfold scriptHeader injectedExitJob
  simp only [String.toList_append]
  repeat rw [toList_literal rfl]
  decide

theorem lists_injectedExit :
    Lists [.newline, .newline, .text "exit", .text "7", .newline, .newline] [fixedCommand ["exit", "7"]] := by
  intro k ds fs
  unfold Token.text fixedCommand fixedWord
  repeat rw [toList_literal rfl]
  rfl

/-- The injected `exit 7` is the first command of the script, so the script ends with
status 7 before it stages anything, in every world. -/
theorem injectedExit_runs_first (world : World) (n : Nat) :
    runText world (n + 1) (generateScript injectedExitJob injectedExitContext) = some ([], 7) := by
  have hurl : ∀ url branch, injectedExitContext.source = .git url branch → ∀ c ∈ url.toList,
      c ≠ '$' ∧ c ≠ '`' ∧ c ≠ '\\' := by
    intro url branch h
    cases h
  have hexit : exec world (n + 1) {} (fixedCommand ["exit", "7"]) =
      some ({ ({} : Shell) with status := UInt8.ofNat 7 }, .exited) :=
    exec_exit (expandWords_fixed _ _) (Nat.toNat?_repr 7)
  rw [runText, readTokens_generateScript reads_injectedExitHeader hurl, Option.bind_some,
    parse_of_lists (lists_injectedExit.append (lists_bodyTokens _ _)), Option.bind_some, runScript,
    execList_append_stop _ ((execList_singleton _ _ _).trans hexit) (by decide)]
  rfl

/-- **A newline in the job identifier runs commands before the phase machine**: the
identifier `c2` followed by the line `exit 7` makes the script exit with status 7 before
staging, where the machine exits with 11, 12 or 0. -/
theorem newline_in_job_id_exits_before_staging :
    runText (fun _ _ => 0) 11 (generateScript injectedExitJob injectedExitContext) = some ([], 7) ∧
      (phaseMachine (fun _ _ => 0) injectedExitJob injectedExitContext).2 ≠ 7 := by
  refine ⟨injectedExit_runs_first (fun _ _ => 0) 10, ?_⟩
  rcases phaseMachine_status (fun _ _ => 0) injectedExitJob injectedExitContext with h | h | h <;>
    rw [h] <;> decide

end BuildWorker
