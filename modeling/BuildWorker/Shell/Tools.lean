import BuildWorker.Shell.Tool.Stream
import BuildWorker.Shell.Tool.Translate
import BuildWorker.Shell.Tool.Sequence
import BuildWorker.Shell.Tool.Files
import BuildWorker.Shell.Tool.Archive
/-!
# The utilities by name

The utilities a build script may call besides the shell's builtins, each found by the
name it is called by.  Their directory is `/usr/bin`, which `command -v` and `type`
report.
-/

namespace BuildWorker.Shell

/-- The utility of a name, if there is one. -/
def toolNamed? (name : String) : Option (ToolCall → ToolResult) :=
  match name with
  | "cat" => some catTool
  | "head" => some headTool
  | "tail" => some tailTool
  | "tr" => some trTool
  | "tee" => some teeTool
  | "seq" => some seqTool
  | "wc" => some wcTool
  | "mkdir" => some mkdirTool
  | "rmdir" => some rmdirTool
  | "touch" => some touchTool
  | "rm" => some rmTool
  | "ls" => some lsTool
  | "ln" => some lnTool
  | "cp" => some (copyTool "cp")
  | "mv" => some (copyTool "mv")
  | "basename" => some basenameTool
  | "dirname" => some dirnameTool
  | "printenv" => some printenvTool
  | "tar" => some tarTool
  | _ => none

/-- The directory the utilities live in. -/
def toolDirectory : String := "/usr/bin"

end BuildWorker.Shell
