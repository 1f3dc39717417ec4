import BuildWorker.Error

/-!
# Execution strategies

Where a build runs: as a direct child of the worker, in a container, or as a
dedicated user.  Only the direct strategy runs here; the names of all three are read
case-insensitively (ASCII letters only).
-/

namespace BuildWorker

/-- Where builds run. -/
inductive StrategyKind where
  | direct
  | docker
  | su
  deriving DecidableEq, Repr, Inhabited

/-- The name of a strategy. -/
def StrategyKind.name : StrategyKind → String
  | .direct => "direct"
  | .docker => "docker"
  | .su => "su"

/-- Reads a strategy name, folding ASCII capitals. -/
def StrategyKind.parse (s : String) : Except WorkerError StrategyKind :=
  let lowered := String.ofList (s.toList.map Char.toLower)
  if lowered = "direct" then .ok .direct
  else if lowered = "docker" then .ok .docker
  else if lowered = "su" then .ok .su
  else .error (.config
    s!"unknown execution strategy '{lowered}' (expected direct, docker or su)")

end BuildWorker
