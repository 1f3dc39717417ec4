import BuildWorker.Cli.Session
/-!
# The program

Reads the arguments and the environment variables the program knows, and writes what
`Cli.respond` gives: standard output, standard error, and the exit status.
-/

open BuildWorker.Cli

/-- The program's entry point. -/
def main (args : List String) : IO UInt32 := do
  let env ← environmentNames.filterMapM fun name => do
    pure ((← IO.getEnv name).map fun value => (name, value))
  let output := respond env args
  IO.print output.out
  IO.eprint output.err
  pure output.status.toUInt32
