import BuildWorker.Identity.Basic
import BuildWorker.Log.Marker
/-!
# What the command line prints

The texts the program writes besides its help: the report of an error that stops it,
the table of registered workers, and the facts about the host that a registration
sends.

An error report names what the program was doing, then the chain of causes under it,
numbered when there is more than one.  The table is drawn with box-drawing characters:
a header row under a double line, and a dashed line between rows.
-/

set_option autoImplicit false

namespace BuildWorker.Cli

/-! ## Errors -/

/-- The report of an error that stops the program: what it was doing, and the causes
under it. -/
def errorReport (context : String) (causes : List String) : String :=
  "Error: " ++ context ++
  (match causes with
   | [] => ""
   | [one] => "\n\nCaused by:\n    " ++ one
   | many => "\n\nCaused by:" ++ String.join (many.zipIdx.map fun (c, i) =>
       "\n" ++ String.ofList (List.replicate (5 - (toString i).length) ' ') ++ toString i ++ ": " ++ c)) ++
  "\n"

/-- The report of an error with no context of its own: its first cause stands first. -/
def errorReportOf (causes : List String) : String :=
  match causes with
  | first :: rest => errorReport first rest
  | [] => errorReport "" []

/-! ## The table of workers -/

/-- Pads a text with spaces to a width. -/
def padRight (width : Nat) (s : String) : String :=
  s ++ String.ofList (List.replicate (width - s.length) ' ')

/-- A horizontal line of the table: the left end, the fill, the crossing and the right
end. -/
def tableLine (widths : List Nat) (left fill cross right : Char) : String :=
  left.toString ++ cross.toString.intercalate (widths.map fun w => String.ofList (List.replicate (w + 2) fill)) ++
    right.toString

/-- A row of the table. -/
def tableRow (widths : List Nat) (cells : List String) : String :=
  "│" ++ "┆".intercalate ((widths.zip cells).map fun (w, c) => " " ++ padRight w c ++ " ") ++ "│"

/-- A table with a header, each column as wide as its widest cell. -/
def renderTable (header : List String) (rows : List (List String)) : String :=
  let widths := header.zipIdx.map fun (h, i) =>
    rows.foldl (fun w r => max w ((r[i]?).getD "").length) h.length
  let body := "\n".intercalate ((rows.map (tableRow widths)).intersperse (tableLine widths '├' '╌' '┼' '┤'))
  tableLine widths '┌' '─' '┬' '┐' ++ "\n" ++ tableRow widths header ++ "\n" ++
    tableLine widths '╞' '═' '╪' '╡' ++ "\n" ++
    (if rows.isEmpty then "" else body ++ "\n") ++
    tableLine widths '└' '─' '┴' '┘'

/-- The status of a worker in the table: running under a live process, marked running
by a process that is gone, or idle. -/
def workerStatus (i : Identity) (processAlive : Bool) (pidText : String) : String :=
  if i.running && processAlive then "running (pid " ++ pidText ++ ")"
  else if i.running then "stale"
  else "idle"

/-- The columns of the table of workers. -/
def workerColumns : List String := ["Worker ID", "Queue", "Platform", "Hostname", "Dist", "Status"]

/-- The row of a worker. -/
def workerRow (i : Identity) (status : String) : List String :=
  [i.workerId, i.queueName.render, i.platform, i.hostname, i.dist, status]

/-! ## The host -/

/-- The distribution named in the text of `os-release`: `ID-VERSION_ID`, or `ID` alone. -/
def distOfOsRelease (text : String) : Option String :=
  let clean (v : String) : String :=
    let v := v.trimAscii.toString
    let strip (q : Char) (v : String) : String :=
      String.ofList ((v.toList.dropWhile (· == q)).reverse.dropWhile (· == q)).reverse
    strip '\'' (strip '"' v)
  let pairs := (textLines text).filterMap fun line =>
    match line.splitOn "=" with
    | key :: rest@(_ :: _) => some (key.trimAscii.toString, clean ("=".intercalate rest))
    | _ => none
  let find (k : String) := (pairs.reverse.find? (·.1 == k)).map (·.2)
  match find "ID", find "VERSION_ID" with
  | some id, some version => some (id ++ "-" ++ version)
  | some id, none => some id
  | none, _ => none

end BuildWorker.Cli
