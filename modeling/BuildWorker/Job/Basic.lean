import BuildWorker.Text.Blank

/-!
# Build jobs

A job is one unit of build work taken from a queue: who and what it builds, the
environment it runs with, and the shell commands of each phase of the build.  Phases
run in a fixed order; a phase without commands is skipped.  A phase's commands are one
command or a list of them, and blank entries (nothing but white space) are dropped
before anything runs.
-/

set_option autoImplicit false

namespace BuildWorker

/-- A named step of a build, in the order they are declared. -/
inductive Phase where
  | install
  | test
  | beforeScript
  | script
  | afterSuccess
  | afterFailure
  | afterError
  | afterScript
  deriving DecidableEq, Repr

/-- Every phase, in declaration order. -/
def Phase.all : List Phase :=
  [.install, .test, .beforeScript, .script, .afterSuccess, .afterFailure, .afterError,
   .afterScript]

/-- The phase's name, as jobs spell it. -/
def Phase.name : Phase → String
  | .install => "install"
  | .test => "test"
  | .beforeScript => "before_script"
  | .script => "script"
  | .afterSuccess => "after_success"
  | .afterFailure => "after_failure"
  | .afterError => "after_error"
  | .afterScript => "after_script"

/-- The commands of a phase: one command, or a list run in order. -/
inductive PhaseCommands where
  | single (command : String)
  | many (commands : List String)
  deriving DecidableEq, Repr

/-- The commands that run, blank entries dropped. -/
def PhaseCommands.commands : PhaseCommands → List String
  | .single c => [c].filter fun c => !Text.isBlankText c
  | .many cs => cs.filter fun c => !Text.isBlankText c

/-- The commands of each phase, with the labels and targets of uploads. -/
structure Instructions where
  install : Option PhaseCommands := none
  test : Option PhaseCommands := none
  beforeScript : Option PhaseCommands := none
  script : Option PhaseCommands := none
  afterSuccess : Option PhaseCommands := none
  afterFailure : Option PhaseCommands := none
  afterError : Option PhaseCommands := none
  afterScript : Option PhaseCommands := none
  /-- Labels attached to every uploaded build target. -/
  uploadLabels : List String := []
  /-- Artifacts uploaded after a successful build. -/
  buildTargets : List String := []
  deriving DecidableEq, Repr

/-- The commands configured for a phase, if any. -/
def Instructions.get (i : Instructions) : Phase → Option PhaseCommands
  | .install => i.install
  | .test => i.test
  | .beforeScript => i.beforeScript
  | .script => i.script
  | .afterSuccess => i.afterSuccess
  | .afterFailure => i.afterFailure
  | .afterError => i.afterError
  | .afterScript => i.afterScript

/-- A build job. -/
structure Job where
  id : String
  name : String
  buildNo : UInt32 := 0
  subBuildNo : UInt32 := 0
  platform : String := ""
  engine : String := ""
  owner : String := ""
  package : String := ""
  /-- Environment assignments, written as shell words. -/
  env : String := ""
  instructions : Instructions := {}
  /-- Seconds without output after which the build is stopped. -/
  ioTimeout : Option UInt64 := none
  uploadToken : String := ""
  gitToken : Option String := none
  gitUrl : Option String := none
  gitBranch : Option String := none
  /-- Container image requested by the job. -/
  image : Option String := none
  deriving DecidableEq, Repr

/-- The build number, `<build_no>.<sub_build_no>`. -/
def Job.buildNumber (j : Job) : String :=
  toString j.buildNo ++ "." ++ toString j.subBuildNo

end BuildWorker
