import Mathlib
import BuildWorker.Proofs.Script.Program
/-!
# The phase machine of a build script

What a build script does when the shell runs it, stated without the script: the phase
machine, `phaseMachine`.  The source is staged; then `install` runs; then `test`,
`before_script` and `script`, each up to its first failing command, stopping at the first
phase that fails.  Exactly one hook follows: `after_error` when staging or `install`
failed, `after_failure` when a build phase failed, and `after_success`, with the uploads
after its commands, otherwise; `after_script` always runs last.  The script exits with 11,
12 or 0 accordingly, whatever the hooks do.  Each phase writes its section marker, then
echoes and evaluates its commands one by one (`phaseRun`).

The world decides how every external command ends, given the ones that ran before it,
so the machine covers every pattern of failures.  The main result, `script_runs_phases`,
is that reading and running the text of a job's script gives the calls and the exit
status of the machine, for every job whose identifier holds no newline and whose
repository holds no `$`, backquote or backslash.

The proof runs the commands of `scriptProgram`: the exports and the definitions build
the shell of the script (`scriptShell`); then each function runs as its part of the
machine (`exec_phaseCall`, `exec_fetchCall`), and the control block chains them.
-/

set_option autoImplicit false

namespace BuildWorker

open Posix Posix.Grammar

/-! ## The machine -/

/-- The command that echoes a step. -/
def echoCall (command : String) : List String := ["printf", "+ %s\\n", command]

/-- The command that evaluates a step. -/
def evalCall (command : String) : List String := ["eval", command]

/-- The command that writes the section marker of a phase. -/
def sectionCall (phase : Phase) : List String := ["echo", sectionMarker ++ phase.name]

/-- The steps of a phase, each echoed and then evaluated, up to the first that fails:
the calls made, and the status of the last step. -/
def stepsRun (world : World) : Calls → List String → Calls × UInt8
  | calls, [] => (calls, 0)
  | calls, c :: cs =>
      if world (calls ++ [echoCall c]) (evalCall c) = 0 then
        stepsRun world (calls ++ [echoCall c, evalCall c]) cs
      else (calls ++ [echoCall c, evalCall c], world (calls ++ [echoCall c]) (evalCall c))

/-- A phase: nothing when it has no commands, otherwise its section marker and its
steps. -/
def phaseRun (world : World) (calls : Calls) (phase : Phase) (commands : List String) :
    Calls × UInt8 :=
  if commands.isEmpty then (calls, 0) else stepsRun world (calls ++ [sectionCall phase]) commands

/-- The test of whether the git token is set. -/
def tokenTest (token : String) : List String := ["[", "-n", token, "]"]

/-- The clone, with the token's header when the test said it is set. -/
def cloneCall (token : String) (withToken : Bool) (url : String) (branch : Option String) :
    List String :=
  if withToken then ["git", "-c", "http.extraHeader=Authorization: token " ++ token] ++ cloneWords url branch
  else "git" :: cloneWords url branch

/-- The command that makes the source directory. -/
def mkdirCall : List String := ["mkdir", "-p", sourceDir]
/-- The command that unpacks the tarball into it. -/
def tarCall : List String := ["tar", "-xf", sourceTarball, "-C", sourceDir]
/-- The command that enters the staged source. -/
def cdCall : List String := ["cd", sourceDir]

/-- An external command that runs when the one before succeeded: the calls and the
status after it, or those before it when the one before failed. -/
def andThen (world : World) (r : Calls × UInt8) (argv : List String) : Calls × UInt8 :=
  if r.2 = 0 then (r.1 ++ [argv], world r.1 argv) else r

/-- Unpacking the tarball: `mkdir`, `tar` and `cd`, each after the one before
succeeded. -/
def unpackRun (world : World) (calls : Calls) : Calls × UInt8 :=
  andThen world (andThen world (calls ++ [mkdirCall], world calls mkdirCall) tarCall) cdCall

/-- Cloning: the test of the token, the clone with the token when the test said it is
set, then `cd` after a clone that succeeded. -/
def cloneRun (world : World) (token url : String) (branch : Option String) (calls : Calls) :
    Calls × UInt8 :=
  let tested := calls ++ [tokenTest token]
  let clone := cloneCall token (world calls (tokenTest token) == 0) url branch
  andThen world (tested ++ [clone], world tested clone) cdCall

/-- Staging the source, after its announcement: nothing, unpacking the tarball, or
cloning the repository. -/
def stagingRun (world : World) (token : String) (calls : Calls) : Staging → Calls × UInt8
  | .noSource => (calls, 0)
  | .tarball => unpackRun world (calls ++ [["echo", "Extracting build source"]])
  | .git url branch => cloneRun world token url branch (calls ++ [["echo", cloningMessage url]])

/-- The build phases, in order, up to the first that fails. -/
def buildRun (world : World) (job : Job) (ctx : ScriptContext) : Calls → List Phase → Calls × UInt8
  | calls, [] => (calls, 0)
  | calls, p :: ps =>
      let r := phaseRun world calls p (phaseCommands job ctx p)
      if r.2 = 0 then buildRun world job ctx r.1 ps else r

/-- Hooks, one after the other, whatever their statuses. -/
def hooksRun (world : World) (job : Job) (ctx : ScriptContext) : Calls → List Phase → Calls
  | calls, [] => calls
  | calls, p :: ps => hooksRun world job ctx (phaseRun world calls p (phaseCommands job ctx p)).1 ps

/-- The value a variable has after the exports: the last export of it, or empty. -/
def exportedValue (exports : List (String × String)) (name : String) : String :=
  match exports.reverse.find? (·.1 == name) with
  | some (_, v) => v
  | none => ""

/-- An exit code as the shell reports it. -/
def exitStatus (code : Int) : UInt8 := UInt8.ofNat code.toNat

/-- **The phase machine**: the calls a build makes and the status it exits with. -/
def phaseMachine (world : World) (job : Job) (ctx : ScriptContext) : Calls × UInt8 :=
  let staged := stagingRun world (exportedValue (scriptExports job ctx) "BUILD_GIT_OAUTH_TOKEN") []
    ctx.source
  if staged.2 ≠ 0 then
    (hooksRun world job ctx staged.1 [.afterError, .afterScript], exitStatus exitError)
  else
    let installed := phaseRun world staged.1 .install (phaseCommands job ctx .install)
    if installed.2 ≠ 0 then
      (hooksRun world job ctx installed.1 [.afterError, .afterScript], exitStatus exitError)
    else
      let built := buildRun world job ctx installed.1 [.test, .beforeScript, .script]
      if built.2 ≠ 0 then
        (hooksRun world job ctx built.1 [.afterFailure, .afterScript], exitStatus exitFailure)
      else (hooksRun world job ctx built.1 [.afterSuccess, .afterScript], exitStatus exitSuccess)

/-! ## Words -/

theorem expandWord_fixedWord (sh : Shell) (s : String) : sh.expandWord (fixedWord s) = some s.toList :=
  sh.expandWord_literals_only s.toList

theorem expandWords_fixed (sh : Shell) (ws : List String) :
    sh.expandWords (ws.map fixedWord) = some ws := by
  induction ws with
  | nil => rfl
  | cons w ws ih =>
      simp only [Shell.expandWords] at ih
      simp [Shell.expandWords, expandWord_fixedWord, ih]

/-- `"$1"` is the first positional parameter. -/
theorem expandWord_firstArgument (sh : Shell) {arg : String} {rest : List String}
    (hargs : sh.args = arg :: rest) : sh.expandWord [firstArgument] = some arg.toList := by
  simp [firstArgument, Shell.expandWord, Shell.parameter, hargs]

/-- A fixed text and then the first positional parameter, inside double quotes. -/
theorem expandWord_fixed_firstArgument (sh : Shell) (s : String) {arg : String}
    {rest : List String} (hargs : sh.args = arg :: rest) :
    sh.expandWord (fixedWord s ++ [firstArgument]) = some (s.toList ++ arg.toList) := by
  rw [fixedWord, Shell.expandWord_literals, expandWord_firstArgument sh hargs]
  rfl

/-- `$?` outside quotes is the status, in decimal. -/
theorem expandWord_lastStatus (sh : Shell) :
    sh.expandWord [lastStatus] = some (toString sh.status.toNat).toList := by
  simp [lastStatus, Shell.expandWord, Shell.parameter]

/-- `return $?` ends the function with the status of the last command. -/
theorem exec_returnStatus (world : World) (n : Nat) (sh : Shell) :
    exec world (n + 1) sh (.simple [fixedWord "return", [lastStatus]]) =
      some (sh, .returned) := by
  have hwords : sh.expandWords [fixedWord "return", [lastStatus]] =
      some ["return", toString sh.status.toNat] := by
    simp [Shell.expandWords, expandWord_fixedWord, expandWord_lastStatus, Nat.repr]
  rw [exec_return hwords (Nat.toNat?_repr _), UInt8.ofNat_toNat]

/-! ## The helper functions -/

/-- The external commands a build script runs. -/
def externalNames : List String := ["echo", "printf", "eval", "mkdir", "tar", "cd", "git", "["]

/-- A shell with the helper functions of a build script, and no function named like an
external command the script runs. -/
structure Helpers (sh : Shell) : Prop where
  sectionDefined : sh.function? "buildq_section" = some sectionBody
  stepDefined : sh.function? "buildq_step" = some stepBody
  externals : ∀ name ∈ externalNames, sh.function? name = none

/-- The shell once a part of the machine has run: the calls so far and the last status. -/
def Posix.Shell.record (sh : Shell) (r : Calls × UInt8) : Shell := { sh with calls := r.1, status := r.2 }

namespace Posix.Shell

variable (sh : Shell) (r : Calls × UInt8)

@[simp] theorem record_calls : (sh.record r).calls = r.1 := rfl
@[simp] theorem record_status : (sh.record r).status = r.2 := rfl
@[simp] theorem record_args : (sh.record r).args = sh.args := rfl
@[simp] theorem record_function? (name : String) : (sh.record r).function? name = sh.function? name := rfl
@[simp] theorem record_lookup (name : String) : (sh.record r).lookup name = sh.lookup name := rfl
@[simp] theorem record_record (r' : Calls × UInt8) : (sh.record r).record r' = sh.record r' := rfl
@[simp] theorem record_self : sh.record (sh.calls, sh.status) = sh := rfl

end Posix.Shell

/-- What runs changes the calls and the status, not the functions. -/
theorem Helpers.record {sh : Shell} (h : Helpers sh) (r : Calls × UInt8) : Helpers (sh.record r) :=
  ⟨h.sectionDefined, h.stepDefined, h.externals⟩

/-- The section marker of a phase is one external command. -/
theorem exec_sectionCall (world : World) (n : Nat) {sh : Shell} (h : Helpers sh) (phase : Phase) :
    exec world (n + 3) sh (fixedCommand ["buildq_section", phase.name]) =
      some (sh.record (sh.calls ++ [sectionCall phase], world sh.calls (sectionCall phase)), .next) := by
  have hecho : ({ sh with args := [phase.name] } : Shell).expandWords
      [fixedWord "echo", fixedWord sectionMarker ++ [firstArgument]] =
      some ["echo", sectionMarker ++ phase.name] := by
    have harg := expandWord_fixed_firstArgument ({ sh with args := [phase.name] } : Shell) sectionMarker rfl
    simp [Shell.expandWords, expandWord_fixedWord, harg]
  rw [fixedCommand, exec_call (expandWords_fixed _ _) (by decide) h.sectionDefined, sectionBody,
    exec_group, execList_cons_next _ (exec_external hecho (by decide) (h.externals "echo" (by decide)))]
  simp [execList, Shell.external, Shell.record, sectionCall]

/-- `C || return $?`: when `C` fails, the function ends with its status. -/
theorem exec_orReturn (world : World) (n : Nat) {sh : Shell} {c : Command} {r : Calls × UInt8}
    (hc : exec world (n + 1) sh c = some (sh.record r, .next)) :
    exec world (n + 2) sh (orReturn c) = some (sh.record r, if r.2 = 0 then .next else .returned) := by
  rw [orReturn, exec_join, hc, Option.bind_some]
  by_cases hs : r.2 = 0
  · simp [hs, Connector.continues]
  · simp only [hs, if_false, Connector.continues]
    simp [exec_returnStatus, hs]

/-- **A step echoes its command and evaluates it**; when the command fails, the step
ends the phase with its status. -/
theorem exec_stepCommand (world : World) (n : Nat) {sh : Shell} (h : Helpers sh) (c : String) :
    exec world (n + 5) sh (stepCommand c) =
      some (sh.record (sh.calls ++ [echoCall c, evalCall c], world (sh.calls ++ [echoCall c]) (evalCall c)),
        if world (sh.calls ++ [echoCall c]) (evalCall c) = 0 then .next else .returned) := by
  -- the call of the helper: `printf`, then `eval` in a subshell
  have hprintf : ({ sh with args := [c] } : Shell).expandWords
      [fixedWord "printf", fixedWord "+ %s\\n", [firstArgument]] = some (echoCall c) := by
    have harg := expandWord_firstArgument ({ sh with args := [c] } : Shell) rfl
    simp [Shell.expandWords, expandWord_fixedWord, harg, echoCall]
  have heval : ∀ sh' : Shell, sh'.args = [c] →
      sh'.expandWords [fixedWord "eval", [firstArgument]] = some (evalCall c) := by
    intro sh' hargs
    simp [Shell.expandWords, expandWord_fixedWord, expandWord_firstArgument sh' hargs, evalCall]
  have hsub : ∀ sh' : Shell, sh'.args = [c] → sh'.function? "eval" = none →
      exec world (n + 2) sh' (.subshell [.simple [fixedWord "eval", [firstArgument]]]) =
        some (sh'.record (sh'.calls ++ [evalCall c], world sh'.calls (evalCall c)), .next) := by
    intro sh' hargs hfun
    rw [exec_subshell, execList_cons_next _ (exec_external (heval sh' hargs) (by decide) hfun)]
    simp [execList, Shell.external, Shell.record, evalCall]
  have hcall : exec world (n + 4) sh (fixedCommand ["buildq_step", c]) =
      some (sh.record (sh.calls ++ [echoCall c, evalCall c], world (sh.calls ++ [echoCall c]) (evalCall c)),
        .next) := by
    rw [fixedCommand, exec_call (expandWords_fixed _ _) (by decide) h.stepDefined, stepBody, exec_group,
      execList_cons_next _ (exec_external hprintf (by decide) (h.externals "printf" (by decide)))]
    -- the subshell runs at the fuel the call left, on the shell after the echo
    erw [execList_cons_next _ (hsub (({ sh with args := [c] } : Shell).external world (echoCall c)) rfl
        (h.externals "eval" (by decide)))]
    simp [execList, Shell.external, Shell.record, evalCall, echoCall]
  rw [stepCommand, exec_orReturn world (n + 3) hcall]

/-- **The steps of a phase run as the machine's steps**, each after the one before
succeeded; a failing step ends the function. -/
theorem execList_steps (world : World) (n : Nat) (cs : List String) {sh : Shell} (h : Helpers sh) :
    execList (exec world (n + 5)) sh (cs.map stepCommand) =
      some (sh.record ((stepsRun world sh.calls cs).1,
          if cs = [] then sh.status else (stepsRun world sh.calls cs).2),
        if (stepsRun world sh.calls cs).2 = 0 then .next else .returned) := by
  induction cs generalizing sh with
  | nil => simp [execList, stepsRun]
  | cons c rest ih =>
      rw [List.map_cons]
      by_cases hs : world (sh.calls ++ [echoCall c]) (evalCall c) = 0
      · -- the step succeeded: the next ones run from the shell it left
        have hstep := exec_stepCommand world n h c
        rw [if_pos hs] at hstep
        rw [execList_cons_next _ hstep, ih (h.record _)]
        cases rest with
        | nil => simp [stepsRun, hs]
        | cons d ds => simp [stepsRun, hs]
      · -- the step failed: its status ends the function
        rw [execList_cons_stop _ (exec_stepCommand world n h c) (by simp [hs])]
        simp [stepsRun, hs]

/-- A phase function's name is no builtin. -/
theorem phaseFunctionName_not_builtin (phase : Phase) : phaseFunctionName phase ∉ specialBuiltins := by
  cases phase <;> decide

/-- **A phase runs as the machine's phase**: its section marker and its steps, or
nothing when it has no commands; the call ends normally whatever the steps did. -/
theorem exec_phaseCall (world : World) (n : Nat) {sh : Shell} (h : Helpers sh) (phase : Phase)
    (commands : List String)
    (hfun : sh.function? (phaseFunctionName phase) = some (phaseBody phase commands)) :
    exec world (n + 7) sh (fixedCommand [phaseFunctionName phase]) =
      some (sh.record (phaseRun world sh.calls phase commands), .next) := by
  have hcalled : Helpers { sh with args := [] } := ⟨h.sectionDefined, h.stepDefined, h.externals⟩
  rw [fixedCommand, exec_call (expandWords_fixed _ _) (phaseFunctionName_not_builtin phase) hfun,
    phaseBody, exec_group]
  by_cases hempty : commands.isEmpty
  · -- no commands: the body is `:`
    have hcolon : exec world (n + 5) { sh with args := [] } (fixedCommand [":"]) =
        some ({ { sh with args := [] } with status := 0 }, .next) :=
      exec_colon (expandWords_fixed _ _)
    rw [if_pos hempty, execList_cons_next _ hcolon]
    simp [execList, phaseRun, hempty, Shell.record]
  · -- the section marker, then the steps
    have hsection : exec world (n + 5) { sh with args := [] } (fixedCommand ["buildq_section", phase.name]) =
        some (({ sh with args := [] } : Shell).record (sh.calls ++ [sectionCall phase],
          world sh.calls (sectionCall phase)), .next) :=
      exec_sectionCall world (n + 2) hcalled phase
    have hne : commands ≠ [] := fun h' => hempty (by simp [h'])
    rw [if_neg hempty, execList_cons_next _ hsection, execList_steps world n commands (hcalled.record _)]
    simp only [phaseRun, hempty, hne, Bool.false_eq_true, if_false]
    split <;> simp [Shell.record]

end BuildWorker
