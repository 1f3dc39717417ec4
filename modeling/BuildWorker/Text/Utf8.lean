/-!
# UTF-8 bytes

Build output is bytes; the log sends text.  This module reads bytes as UTF-8 one byte
at a time, with a small machine whose state is the character being assembled.  Bytes
that cannot belong to a character are replaced by U+FFFD, one replacement for each
maximal ill-formed piece, which is the rule Unicode recommends.  The same machine
tells when a byte string ends inside a character (`incompleteTail`), so that a sender
can keep the tail back until the rest arrives.
-/

namespace BuildWorker.Text

/-- The replacement character. -/
def replacementChar : Char := '�'

/-- The shape of a well-formed sequence that starts with a lead byte: how many bytes
follow, and the range allowed for the first of them. -/
def leadShape (b : UInt8) : Option (Nat × UInt8 × UInt8) :=
  if 0xC2 ≤ b && b ≤ 0xDF then some (1, 0x80, 0xBF)
  else if b == 0xE0 then some (2, 0xA0, 0xBF)
  else if 0xE1 ≤ b && b ≤ 0xEC then some (2, 0x80, 0xBF)
  else if b == 0xED then some (2, 0x80, 0x9F)
  else if 0xEE ≤ b && b ≤ 0xEF then some (2, 0x80, 0xBF)
  else if b == 0xF0 then some (3, 0x90, 0xBF)
  else if 0xF1 ≤ b && b ≤ 0xF3 then some (3, 0x80, 0xBF)
  else if b == 0xF4 then some (3, 0x80, 0x8F)
  else none

/-- The decoder's state: between characters, or inside one, with the code point so far,
the bytes still missing, and the range allowed for the next byte. -/
inductive DecodeState where
  | between
  | inside (code : Nat) (missing : Nat) (lo hi : UInt8)
  deriving DecidableEq, Repr

/-- Starts on a byte between characters: the characters it completes, and the state. -/
def startByte (b : UInt8) : List Char × DecodeState :=
  if b < 0x80 then ([Char.ofNat b.toNat], .between)
  else match leadShape b with
    | some (1, lo, hi) => ([], .inside (b.toNat &&& 0x1F) 1 lo hi)
    | some (2, lo, hi) => ([], .inside (b.toNat &&& 0x0F) 2 lo hi)
    | some (n, lo, hi) => ([], .inside (b.toNat &&& 0x07) n lo hi)
    | none => ([replacementChar], .between)

/-- One byte of input. -/
def DecodeState.step : DecodeState → UInt8 → List Char × DecodeState
  | .between, b => startByte b
  | .inside code missing lo hi, b =>
      if lo ≤ b && b ≤ hi then
        let code := code * 64 + (b.toNat &&& 0x3F)
        if missing ≤ 1 then ([Char.ofNat code], .between)
        else ([], .inside code (missing - 1) 0x80 0xBF)
      else
        let (out, s) := startByte b
        (replacementChar :: out, s)

/-- What the state still owes when the input ends. -/
def DecodeState.finish : DecodeState → List Char
  | .between => []
  | .inside .. => [replacementChar]

/-- Runs the decoder over bytes from a state, collecting characters in order. -/
def DecodeState.run : DecodeState → List UInt8 → List Char × DecodeState
  | s, [] => ([], s)
  | s, b :: rest =>
      let (out, s') := s.step b
      let (out', s'') := s'.run rest
      (out ++ out', s'')

/-- Bytes read as UTF-8, with each ill-formed piece replaced. -/
def decodeLossy (bytes : List UInt8) : String :=
  let (out, s) := DecodeState.between.run bytes
  String.ofList (out ++ s.finish)

/-- Bytes of a byte array read as UTF-8, with each ill-formed piece replaced. -/
def decodeLossyArray (bytes : ByteArray) : String :=
  decodeLossy bytes.toList

/-- Whether bytes are a proper, non-empty beginning of one character's encoding. -/
def isIncompleteChar (bytes : List UInt8) : Bool :=
  match DecodeState.between.run bytes with
  | ([], .inside ..) => true
  | _ => false

/-- The length of the unfinished character at the end of the bytes, or zero.  Only the
last three positions can start one, and the earliest that does wins. -/
def incompleteTail (bytes : List UInt8) : Nat :=
  let n := bytes.length
  let starts := (List.range 3).filterMap fun k =>
    if k + (n - 3) < n then some (k + (n - 3)) else none
  match starts.find? (fun i => isIncompleteChar (bytes.drop i)) with
  | some i => n - i
  | none => 0

/-- The UTF-8 bytes of a text. -/
def encode (s : String) : List UInt8 :=
  s.toUTF8.toList

end BuildWorker.Text
