import BuildWorker.Run.Supervise
import BuildWorker.Shell.Quote
/-!
# Running a command under supervision

A command is a program with arguments; with no program named, it is the shell given a
script with `-c`.  A program that is neither the shell nor a command the shell knows
cannot be started, and that is an error before anything runs.

A *transcript* is the simplest sink: it keeps every byte and counts the writes, and it
asks for the build to stop once a given number of writes has come.
-/

namespace BuildWorker

/-- A sink that keeps everything, and asks to stop after a number of writes. -/
structure Transcript where
  data : List UInt8 := []
  writes : Nat := 0
  stopAfter : Option Nat := none
  deriving DecidableEq, Repr

/-- The transcript as an output sink. -/
def Transcript.sink : OutputSink Transcript where
  write t bytes := if bytes.isEmpty then t else { t with data := t.data ++ bytes, writes := t.writes + 1 }
  stopRequested t := match t.stopAfter with
    | some n => t.writes ≥ n
    | none => false

/-- How often a text occurs in another, counting non-overlapping occurrences from the
left. -/
def countOccurrences (needle hay : String) : Nat :=
  if needle.isEmpty then 0 else (hay.splitOn needle).length - 1

/-- What to run: a program (the shell when none is named), a script for the shell, and
the arguments. -/
structure DirectCommand where
  program : Option String := none
  script : Option String := none
  deriving Repr

/-- The shell text that runs a command, or the failure to start it. -/
def DirectCommand.shellText (c : DirectCommand) : Except WorkerError String :=
  let program := c.program.getD "bash"
  let args := match c.script with
    | some s => ["-c", s]
    | none => []
  if program == "bash" || program == "sh" then
    match c.script with
    | some s => .ok s
    | none => .ok ""
  else if Shell.commandExists program then
    .ok (" ".intercalate ((program :: args).map Shell.quote))
  else .error (.spawn program .notFound)

/-- Runs a command in a scratch directory under supervision into a transcript. -/
def superviseDirect (c : DirectCommand) (limits : Limits) (stopAfter : Option Nat)
    (cancelAtMs : Option Nat) : Except WorkerError (Supervised Transcript) := do
  let text ← c.shellText
  let cancelAt := cancelAtMs.map (· * 1000)
  let horizon := match cancelAt with
    | some t => min t (limits.timeoutMs * 1000)
    | none => limits.timeoutMs * 1000
  let setup : Shell.RunSetup :=
    { script := text, scriptName := c.program.getD "bash", messagePrefix := c.program.getD "bash",
      cwd := [scratchRoot], files := FileTree.standard [[scratchRoot]], horizon }
  pure (supervise Transcript.sink { stopAfter } limits cancelAt setup.run)

end BuildWorker
