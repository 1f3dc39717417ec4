import BuildWorker.Script.Generate
import BuildWorker.Shell.Run
/-!
# Running a build script by itself

A generated build script run with the shell in a fresh scratch directory, as
`bash build_script.sh`, with the source archive beside it when one is given.  Only the
exit code and standard output are kept; nothing limits the time it takes.
-/

namespace BuildWorker

/-- How long a script may sleep in all: far beyond any build run this way. -/
def unlimitedHorizon : Nat := 1000000000000

/-- Runs a script in a fresh scratch directory: its exit code (none if it never ends)
and its standard output. -/
def executeScript (script : String) (tarball : Option (List UInt8)) : Option Nat × List UInt8 :=
  let files := FileTree.standard [[scratchRoot]]
  let files := (files.write [scratchRoot, scriptName] (Text.encode script) false).toOption.getD files
  let files := match tarball with
    | some bytes => (files.write [scratchRoot, sourceTarball] bytes false).toOption.getD files
    | none => files
  let setup : Shell.RunSetup :=
    { script, scriptName, messagePrefix := scriptName, cwd := [scratchRoot], files,
      horizon := unlimitedHorizon, watchErrors := false, commandLine := false }
  let trace := setup.run
  (trace.exit.map (·.2), trace.written.flatMap (·.2))

end BuildWorker
