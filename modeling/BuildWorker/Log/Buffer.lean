import BuildWorker.Log.Marker
import BuildWorker.Text.Utf8
import BuildWorker.Text.Blank
/-!
# The log buffer

A build's output is kept as a queue of chunks, each tagged with the section that was
current when its bytes were written.  Output is cut into lines; a complete line that
starts with the section marker switches the section for what follows.  The switch comes
as the piece that completes the line is stored, so that piece already goes under the new
section, while the line's earlier pieces stay in the section before.  Consecutive bytes
of one section share a chunk.

Only the first part of a line is remembered for recognising markers: a line is
extended only while it is shorter than `maxTrackedLine` bytes, so very long lines
never become markers.

Taking the buffer's contents for sending leaves behind an unfinished UTF-8 character
at the very end, unless the log is being completed: the rest of the character may
still come, and sending its first bytes alone would garble it.  Chunks that could not
be sent go back to the front, ahead of anything written since.
-/

set_option autoImplicit false

namespace BuildWorker

/-- Bytes of output with the section they belong to. -/
structure Chunk where
  sectionName : Option String
  data : List UInt8
  deriving DecidableEq, Repr, Inhabited

/-- The longest partial line kept for recognising markers. -/
def maxTrackedLine : Nat := 512

/-- The buffer: chunks not yet sent, the current section, and the start of the current
line. -/
structure LogBuffer where
  chunks : List Chunk := []
  sectionName : Option String := none
  line : List UInt8 := []
  deriving DecidableEq, Repr, Inhabited

/-- The section a complete line names, if it is a marker line with a non-blank name. -/
def markerSection (line : List UInt8) : Option String := do
  let text ← String.fromUTF8? (ByteArray.mk line.toArray)
  guard (text.startsWith sectionMarker)
  let name := Text.trim (String.ofList (text.toList.drop sectionMarker.length))
  guard (!name.isEmpty)
  pure name

/-- Cuts bytes after each line feed; every piece but the last ends with one. -/
def splitLines (data : List UInt8) : List (List UInt8) :=
  let (pieces, current) := data.foldl (fun (acc : List (List UInt8) × List UInt8) b =>
    let (pieces, current) := acc
    if b == 10 then (pieces ++ [current ++ [b]], []) else (pieces, current ++ [b])) ([], [])
  if current.isEmpty then pieces else pieces ++ [current]

namespace LogBuffer

/-- Adds bytes to the last chunk if it has the current section, else starts a chunk. -/
def push (buf : LogBuffer) (piece : List UInt8) : LogBuffer :=
  match buf.chunks.getLast? with
  | some last =>
      if last.sectionName == buf.sectionName then
        { buf with chunks := buf.chunks.dropLast ++ [{ last with data := last.data ++ piece }] }
      else { buf with chunks := buf.chunks ++ [⟨buf.sectionName, piece⟩] }
  | none => { buf with chunks := [⟨buf.sectionName, piece⟩] }

/-- Adds one piece: the line is extended while short, a completed marker line switches
the section, and the piece is stored under the section then current. -/
def appendPiece (buf : LogBuffer) (piece : List UInt8) : LogBuffer :=
  let line := if buf.line.length < maxTrackedLine then buf.line ++ piece else buf.line
  let buf :=
    if piece.getLast? == some 10 then
      { buf with
        line := [],
        sectionName := match markerSection line with
          | some s => some s
          | none => buf.sectionName }
    else { buf with line := line }
  buf.push piece

/-- Adds written bytes. -/
def append (buf : LogBuffer) (data : List UInt8) : LogBuffer :=
  (splitLines data).foldl appendPiece buf

/-- Takes the chunks ready to send.  Unless `complete`, an unfinished character at
the end stays behind in a chunk of its own. -/
def take (buf : LogBuffer) (complete : Bool) : List Chunk × LogBuffer :=
  let ready := buf.chunks
  let buf := { buf with chunks := [] }
  if complete then (ready, buf)
  else
    match ready.getLast? with
    | none => (ready, buf)
    | some last =>
        let unfinished := Text.incompleteTail last.data
        if unfinished == 0 then (ready, buf)
        else
          let kept := last.data.take (last.data.length - unfinished)
          let tail := last.data.drop (last.data.length - unfinished)
          let buf := { buf with chunks := buf.chunks ++ [⟨last.sectionName, tail⟩] }
          let ready := if kept.isEmpty then ready.dropLast else ready.dropLast ++ [{ last with data := kept }]
          (ready, buf)

/-- Puts unsent chunks back in front, in their order. -/
def requeue (buf : LogBuffer) (unsent : List Chunk) : LogBuffer :=
  { buf with chunks := unsent ++ buf.chunks }

end LogBuffer

end BuildWorker
