import BuildWorker.Script.Staging
import BuildWorker.Queue.Name
import BuildWorker.Shell.Quote
import BuildWorker.Shell.Words
import BuildWorker.Log.Marker
import BuildWorker.Job.Outcome

/-!
# Build scripts

A job becomes a bash script that encodes the phase machine:

| phase | on failure |
|---|---|
| source staging, `install` | `after_error`, `after_script`, exit 11 |
| `test`, `before_script`, `script` | `after_failure`, `after_script`, exit 12 |

When every phase succeeds the script runs `after_success` and `after_script` and exits
0.  A phase without commands succeeds without output.  Each command runs in a subshell
of its own, so an `exit` inside one command only ends that step.

Everything that comes from the job (identifiers, environment values, commands, URLs)
enters the script as one quoted shell word, so no job text becomes shell syntax of the
script itself.  The one exception is the operator's upload command, which is trusted
configuration.
-/

set_option autoImplicit false

namespace BuildWorker

/-- Name of the generated script inside the working directory. -/
def scriptName : String := "build_script.sh"

/-- Name of a downloaded source tarball inside the working directory. -/
def sourceTarball : String := "build_source.tar"

/-- Directory the staged source is unpacked or cloned into. -/
def sourceDir : String := "source"

/-- What the worker adds to a job to make its script. -/
structure ScriptContext where
  queue : QueueName
  workerId : String
  source : Staging
  /-- Operator-configured upload command; each target is appended to it. -/
  uploadCommand : Option String
  deriving Repr

/-- The variables the script exports, in order: fixed ones, the git token when the job
has one, then the job's own environment assignments. -/
def scriptExports (job : Job) (ctx : ScriptContext) : List (String × String) :=
  [("CI", "true"),
   ("BUILD_JOB_ID", job.id),
   ("BUILD_JOB_NAME", job.name),
   ("BUILD_NO", toString job.buildNo),
   ("BUILD_SUB_NO", toString job.subBuildNo),
   ("BUILD_NUMBER", job.buildNumber),
   ("BUILD_PLATFORM", job.platform),
   ("BUILD_ENGINE", job.engine),
   ("BUILD_OWNER", job.owner),
   ("BUILD_PACKAGE", job.package),
   ("BUILD_QUEUE", ctx.queue.render),
   ("BUILD_WORKER_ID", ctx.workerId),
   ("BUILD_UPLOAD_TOKEN", job.uploadToken),
   ("BUILD_UPLOAD_LABELS", ",".intercalate job.instructions.uploadLabels)] ++
  (match job.gitToken with
   | some token => [("BUILD_GIT_OAUTH_TOKEN", token)]
   | none => []) ++
  Shell.envAssignments job.env

/-- Opening and closing braces, for the shell text below. -/
def lbrace : String := "\x7b"
/-- See `lbrace`. -/
def rbrace : String := "\x7d"

/-- The arguments of a clone after its depth: the branch when there is one, the
repository and the directory. -/
def cloneArguments (url : String) (branch : Option String) : String :=
  (match branch with
   | some b => " --branch " ++ Shell.quote b
   | none => "") ++ " " ++ Shell.quote url ++ " " ++ sourceDir

/-- The function that stages the source. -/
def fetchFunction : Staging → String
  | .noSource => "buildq_fetch() " ++ lbrace ++ " :; " ++ rbrace ++ "\n"
  | .tarball =>
      "buildq_fetch() " ++ lbrace ++ "\n    echo \"Extracting build source\"\n    mkdir -p " ++
      sourceDir ++ " && tar -xf " ++ sourceTarball ++ " -C " ++ sourceDir ++ " && cd " ++
      sourceDir ++ "\n" ++ rbrace ++ "\n"
  | .git url branch =>
      let display := String.ofList (url.toList.filter (· != '"'))
      let clone := " clone --depth 1" ++ cloneArguments url branch ++ " || return $?\n"
      "buildq_fetch() \x7b\n    echo \"Cloning " ++ display ++ "\"\n" ++
      "    if [ -n \"$\x7bBUILD_GIT_OAUTH_TOKEN:-\x7d\" ]; then\n" ++
      "        git -c \"http.extraHeader=Authorization: token $\x7bBUILD_GIT_OAUTH_TOKEN\x7d\"" ++ clone ++
      "    else\n        git" ++ clone ++
      "    fi\n    cd " ++ sourceDir ++ "\n\x7d\n"

/-- The step that runs one command of a phase; a failing command ends the phase with
its status. -/
def stepLine (command : String) : String :=
  "    buildq_step " ++ Shell.quote command ++ " || return $?\n"

/-- The function of one phase: a no-op, or a section marker and one step per command,
the first failing step ending the phase with its status. -/
def phaseFunction (phase : Phase) (commands : List String) : String :=
  if commands.isEmpty then "phase_" ++ phase.name ++ "() " ++ lbrace ++ " :; " ++ rbrace ++ "\n"
  else
    "phase_" ++ phase.name ++ "() " ++ lbrace ++ "\n    buildq_section " ++ phase.name ++ "\n" ++
    String.join (commands.map stepLine) ++ rbrace ++ "\n"

/-- The upload steps after a success: the operator's command (trimmed), the labels,
then one non-blank target each.  No command, or a blank one, uploads nothing. -/
def uploadCommands (job : Job) (uploadCommand : Option String) : List String :=
  match uploadCommand with
  | some upload =>
      if Text.isBlankText upload then []
      else
        let labels := String.join (job.instructions.uploadLabels.map fun l => " --label " ++ Shell.quote l)
        (job.instructions.buildTargets.filter fun t => !Text.isBlankText t).map fun t =>
          Text.trim upload ++ labels ++ " " ++ Shell.quote t
  | none => []

/-- The commands of a phase in the script: the job's, and for `after_success` the
uploads after them. -/
def phaseCommands (job : Job) (ctx : ScriptContext) (phase : Phase) : List String :=
  let own := ((job.instructions.get phase).map PhaseCommands.commands).getD []
  if phase == .afterSuccess then own ++ uploadCommands job ctx.uploadCommand else own

/-- The fixed control block: staging, install, the build phases, the hooks. -/
def controlBlock : String :=
  "if ! buildq_fetch; then\n    phase_after_error\n    phase_after_script\n    exit " ++
  toString exitError ++ "\nfi\n\n" ++
  "if ! phase_install; then\n    phase_after_error\n    phase_after_script\n    exit " ++
  toString exitError ++ "\nfi\n\n" ++
  "if ! phase_test || ! phase_before_script || ! phase_script; then\n" ++
  "    phase_after_failure\n    phase_after_script\n    exit " ++ toString exitFailure ++
  "\nfi\n\n" ++
  "phase_after_success\nphase_after_script\nexit " ++ toString exitSuccess ++ "\n"

/-- The first lines of a script: its interpreter, and the job it builds. -/
def scriptHeader (job : Job) : String :=
  "#!/usr/bin/env bash\n" ++ "# Build script for job " ++ job.id ++ "\n\n"

/-- The line that exports one variable. -/
def exportLine (key value : String) : String :=
  "export " ++ key ++ "=" ++ Shell.quote value ++ "\n"

/-- The two functions the phases use: one writes a section marker, the other echoes a
command and runs it in a subshell of its own. -/
def helperFunctions : String :=
  "buildq_section() " ++ lbrace ++ "\n    echo \"" ++ sectionMarker ++ "$1\"\n" ++ rbrace ++ "\n\n" ++
  "buildq_step() " ++ lbrace ++ "\n    printf '+ %s\\n' \"$1\"\n    ( eval \"$1\" )\n" ++ rbrace ++ "\n\n"

/-- The build script of a job. -/
def generateScript (job : Job) (ctx : ScriptContext) : String :=
  scriptHeader job ++
  String.join ((scriptExports job ctx).map fun (k, v) => exportLine k v) ++
  "\n" ++
  helperFunctions ++
  fetchFunction ctx.source ++ "\n" ++
  String.join (Phase.all.map fun p => phaseFunction p (phaseCommands job ctx p) ++ "\n") ++
  controlBlock

end BuildWorker
