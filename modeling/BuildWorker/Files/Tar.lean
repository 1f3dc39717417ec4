/-!
# Tar archives

The entries of a tar archive, as written by POSIX `ustar` and older tar programs.  The
archive is a series of 512-byte blocks: each entry has a header block, then its data
padded to whole blocks, and a block of zeros (or the end of the bytes) ends the archive.

A header holds the name (with the `prefix` field in front of it for `ustar`), the size
in octal, the type flag, and a checksum: the sum of the header's bytes with the checksum
field counted as spaces.  An archive whose first header fails the checksum is not a tar
archive at all; one that ends inside an entry is truncated.  An empty file, or one that
starts with a block of zeros, is an empty archive.
-/

namespace BuildWorker

/-- What a tar entry is. -/
inductive TarKind where
  | file
  | directory
  | other
  deriving DecidableEq, Repr, Inhabited

/-- An entry of an archive. -/
structure TarEntry where
  name : String
  kind : TarKind
  data : List UInt8
  deriving DecidableEq, Repr, Inhabited

/-- Why an archive could not be read. -/
inductive TarError where
  | notAnArchive
  | truncated
  | badHeader
  deriving DecidableEq, Repr, Inhabited

/-- The size of a tar block. -/
def tarBlock : Nat := 512

/-- A text field of a header: its bytes up to the first zero. -/
def tarText (bytes : List UInt8) : String :=
  String.fromUTF8? (ByteArray.mk (bytes.takeWhile (· != 0)).toArray) |>.getD ""

/-- An octal number field, ignoring leading blanks and stopping at a zero or blank. -/
def tarOctal (bytes : List UInt8) : Option Nat :=
  let body := (bytes.dropWhile (· == 32)).takeWhile (fun b => b != 0 && b != 32)
  if body.all (fun b => 48 ≤ b && b ≤ 55) then
    some (body.foldl (fun n b => n * 8 + (b.toNat - 48)) 0)
  else none

/-- The bytes of a field. -/
def tarField (header : List UInt8) (offset length : Nat) : List UInt8 :=
  (header.drop offset).take length

/-- Whether a header's checksum field agrees with its bytes. -/
def tarChecksumOk (header : List UInt8) : Bool :=
  let sum := (header.take 148).foldl (fun n b => n + b.toNat) 0 + 8 * 32 +
    (header.drop 156).foldl (fun n b => n + b.toNat) 0
  tarOctal (tarField header 148 8) == some sum

/-- The entries of an archive, from its header at the given block on. -/
def tarEntries (bytes : List UInt8) : Nat → Bool → Except TarError (List TarEntry)
  | 0, _ => .ok []
  | fuel + 1, first =>
      if bytes.length < tarBlock then
        if bytes.isEmpty then .ok []
        else if first then .error .notAnArchive else .error .truncated
      else
        let header := bytes.take tarBlock
        if header.all (· == 0) then .ok []
        else if !tarChecksumOk header then
          .error (if first then .notAnArchive else .badHeader)
        else
          match tarOctal (tarField header 124 12) with
          | none => .error .badHeader
          | some size =>
              let name := tarText (tarField header 0 100)
              let isUstar := (tarField header 257 5) == "ustar".toUTF8.toList
              let pre := if isUstar then tarText (tarField header 345 155) else ""
              let name := if pre.isEmpty then name else pre ++ "/" ++ name
              let flag := (header.drop 156).head?.getD 0
              let kind :=
                if flag == 48 || flag == 0 then
                  if name.endsWith "/" then TarKind.directory else TarKind.file
                else if flag == 53 then TarKind.directory
                else TarKind.other
              let padded := (size + tarBlock - 1) / tarBlock * tarBlock
              let rest := bytes.drop tarBlock
              if rest.length < size then .error .truncated
              else
                let entry : TarEntry := ⟨name, kind, rest.take size⟩
                (entry :: ·) <$> tarEntries (rest.drop padded) fuel false

/-- Reads an archive's entries. -/
def readTar (bytes : List UInt8) : Except TarError (List TarEntry) :=
  tarEntries bytes (bytes.length / tarBlock + 2) true

end BuildWorker
