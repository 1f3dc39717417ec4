/-!
# Section markers

A build announces the phase it enters by printing a marker line: the marker, then the
phase's name.  The build log reads these lines to tag the output that follows.
-/

namespace BuildWorker

/-- The start of a line that names the section the following output belongs to. -/
def sectionMarker : String := "##[buildq:section] "

/-- The lines of a text: cut after each line feed, with no empty line after a last line
feed, and a carriage return that ends a line dropped. -/
def textLines (text : String) : List String :=
  let parts := text.splitOn "\n"
  let parts := if parts.getLast? == some "" then parts.dropLast else parts
  parts.map fun l => if l.endsWith "\r" then String.ofList l.toList.dropLast else l

/-- The section names that the marker lines of a delivered log give, in order. -/
def markedSections (text : String) : List String :=
  (textLines text).filterMap fun l =>
    if l.startsWith sectionMarker then some (String.ofList (l.toList.drop sectionMarker.length))
    else none

end BuildWorker
