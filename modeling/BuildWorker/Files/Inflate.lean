/-!
# Inflating gzip data

A gzip file is one or more *members*: a header (magic bytes `1f 8b`, the method 8, flags
that announce an extra field, a file name, a comment and a header checksum), a DEFLATE
stream, and a trailer with the CRC-32 and the length of the data.

A DEFLATE stream is a series of blocks, each stored, or coded with the fixed Huffman
codes, or with codes sent in the block.  A code is read bit by bit, low bit of each byte
first, and decoded canonically: codes of one length are consecutive numbers, given to
the symbols in order.  A length symbol and a distance copy earlier output, which may
overlap the bytes being written.

Every loop here is bounded by the number of bits left to read.
-/

namespace BuildWorker

/-- Why compressed data could not be inflated. -/
inductive InflateError where
  | notGzip
  | unexpectedEnd
  | formatViolated
  | crcError
  | lengthError
  deriving DecidableEq, Repr, Inhabited

/-- The wording of an inflate error, as `gzip` reports it about its input. -/
def InflateError.message : InflateError → String
  | .notGzip => "not in gzip format"
  | .unexpectedEnd => "unexpected end of file"
  | .formatViolated => "invalid compressed data--format violated"
  | .crcError => "invalid compressed data--crc error"
  | .lengthError => "invalid compressed data--length error"

/-- Bytes read bit by bit: the position counts bits. -/
structure BitReader where
  bytes : Array UInt8
  pos : Nat := 0
  deriving Inhabited

namespace BitReader

/-- Reads `n` bits, the first read being the lowest. -/
def bits (r : BitReader) (n : Nat) : Except InflateError (Nat × BitReader) :=
  if r.pos + n > r.bytes.size * 8 then .error .unexpectedEnd
  else
    let v := (List.range n).foldl (fun acc k =>
      let p := r.pos + k
      let b := (r.bytes.getD (p / 8) 0).toNat
      acc + ((b / Nat.pow 2 (p % 8)) % 2) * Nat.pow 2 k) 0
    .ok (v, { r with pos := r.pos + n })

/-- Skips to the next byte boundary. -/
def align (r : BitReader) : BitReader := { r with pos := (r.pos + 7) / 8 * 8 }

/-- The bits not read yet. -/
def remaining (r : BitReader) : Nat := r.bytes.size * 8 - r.pos

end BitReader

/-- A canonical Huffman code: how many codes each length has, and the symbols in code
order. -/
structure Huffman where
  counts : Array Nat
  symbols : Array Nat
  deriving Inhabited

/-- The code given by the code length of each symbol (zero for an unused symbol). -/
def Huffman.ofLengths (lengths : List Nat) : Huffman :=
  let counts := lengths.foldl (fun (c : Array Nat) l => if l == 0 then c else c.modify l (· + 1))
    (Array.replicate 16 0)
  let order := ((lengths.zipIdx.filter (·.1 != 0)).mergeSort fun a b =>
    a.1 < b.1 || (a.1 == b.1 && a.2 ≤ b.2)).map (·.2)
  { counts, symbols := order.toArray }

/-- Decodes one symbol. -/
def Huffman.decode (h : Huffman) (r : BitReader) : Except InflateError (Nat × BitReader) :=
  let rec go : Nat → Nat → Nat → Nat → Nat → BitReader → Except InflateError (Nat × BitReader)
    | 0, _, _, _, _, _ => .error .formatViolated
    | fuel + 1, len, code, first, index, r => do
        let (b, r) ← r.bits 1
        let code := code + b
        let count := h.counts.getD len 0
        if code < first + count then
          match h.symbols[index + (code - first)]? with
          | some s => pure (s, r)
          | none => .error .formatViolated
        else go fuel (len + 1) (code * 2) ((first + count) * 2) (index + count) r
  go 15 1 0 0 0 r

/-- The base lengths of the length symbols 257 to 285, and their extra bits. -/
def lengthBases : Array Nat :=
  #[3, 4, 5, 6, 7, 8, 9, 10, 11, 13, 15, 17, 19, 23, 27, 31, 35, 43, 51, 59, 67, 83, 99, 115,
    131, 163, 195, 227, 258]

def lengthExtra : Array Nat :=
  #[0, 0, 0, 0, 0, 0, 0, 0, 1, 1, 1, 1, 2, 2, 2, 2, 3, 3, 3, 3, 4, 4, 4, 4, 5, 5, 5, 5, 0]

/-- The base distances of the distance symbols, and their extra bits. -/
def distanceBases : Array Nat :=
  #[1, 2, 3, 4, 5, 7, 9, 13, 17, 25, 33, 49, 65, 97, 129, 193, 257, 385, 513, 769, 1025, 1537,
    2049, 3073, 4097, 6145, 8193, 12289, 16385, 24577]

def distanceExtra : Array Nat :=
  #[0, 0, 0, 0, 1, 1, 2, 2, 3, 3, 4, 4, 5, 5, 6, 6, 7, 7, 8, 8, 9, 9, 10, 10, 11, 11, 12, 12, 13, 13]

/-- Copies `length` bytes from `distance` back, one at a time, so that a copy may read
what it writes. -/
def copyBack (out : Array UInt8) (distance length : Nat) : Except InflateError (Array UInt8) :=
  if distance == 0 || distance > out.size then .error .formatViolated
  else .ok ((List.range length).foldl (fun o _ => o.push (o.getD (o.size - distance) 0)) out)

/-- Decodes the symbols of a coded block until its end symbol. -/
def inflateCodes (lit dist : Huffman) : Nat → BitReader → Array UInt8 → Except InflateError (BitReader × Array UInt8)
  | 0, _, _ => .error .formatViolated
  | fuel + 1, r, out => do
      let (sym, r) ← lit.decode r
      if sym < 256 then inflateCodes lit dist fuel r (out.push sym.toUInt8)
      else if sym == 256 then pure (r, out)
      else
        let k := sym - 257
        if k ≥ 29 then .error .formatViolated
        let (extra, r) ← r.bits (lengthExtra.getD k 0)
        let length := lengthBases.getD k 0 + extra
        let (dsym, r) ← dist.decode r
        if dsym ≥ 30 then .error .formatViolated
        let (dextra, r) ← r.bits (distanceExtra.getD dsym 0)
        let out ← copyBack out (distanceBases.getD dsym 0 + dextra) length
        inflateCodes lit dist fuel r out

/-- The fixed codes. -/
def fixedCodes : Huffman × Huffman :=
  (Huffman.ofLengths (List.replicate 144 8 ++ List.replicate 112 9 ++ List.replicate 24 7 ++ List.replicate 8 8),
   Huffman.ofLengths (List.replicate 30 5))

/-- The order in which a dynamic block sends the lengths of the code-length code. -/
def codeLengthOrder : List Nat := [16, 17, 18, 0, 8, 7, 9, 6, 10, 5, 11, 4, 12, 3, 13, 2, 14, 1, 15]

/-- Reads `count` code lengths with the code-length code; 16 repeats the last length,
17 and 18 give runs of zeros. -/
def readLengths (h : Huffman) (count : Nat) : Nat → BitReader → Array Nat → Except InflateError (BitReader × Array Nat)
  | 0, _, _ => .error .formatViolated
  | fuel + 1, r, acc =>
      if acc.size ≥ count then
        if acc.size > count then .error .formatViolated else .ok (r, acc)
      else do
        let (sym, r) ← h.decode r
        if sym < 16 then readLengths h count fuel r (acc.push sym)
        else if sym == 16 then
          match acc.back? with
          | none => .error .formatViolated
          | some last =>
              let (n, r) ← r.bits 2
              readLengths h count fuel r (acc ++ Array.replicate (3 + n) last)
        else if sym == 17 then
          let (n, r) ← r.bits 3
          readLengths h count fuel r (acc ++ Array.replicate (3 + n) 0)
        else
          let (n, r) ← r.bits 7
          readLengths h count fuel r (acc ++ Array.replicate (11 + n) 0)

/-- Reads the codes of a dynamic block. -/
def dynamicCodes (r : BitReader) : Except InflateError (Huffman × Huffman × BitReader) := do
  let (hlit, r) ← r.bits 5
  let (hdist, r) ← r.bits 5
  let (hclen, r) ← r.bits 4
  let (lens, r) ← (List.range (hclen + 4)).foldlM (fun (acc : List (Nat × Nat) × BitReader) k => do
    let (v, r) ← acc.2.bits 3
    pure ((codeLengthOrder.getD k 0, v) :: acc.1, r)) ([], r)
  let clLengths := (List.range 19).map fun s => (lens.lookup s).getD 0
  let clCode := Huffman.ofLengths clLengths
  let total := hlit + 257 + hdist + 1
  let (r, lengths) ← readLengths clCode total (total + 1) r #[]
  let lit := Huffman.ofLengths (lengths.toList.take (hlit + 257))
  let dist := Huffman.ofLengths (lengths.toList.drop (hlit + 257))
  pure (lit, dist, r)

/-- Inflates the blocks of a DEFLATE stream, up to its last block. -/
def inflateBlocks : Nat → BitReader → Array UInt8 → Except InflateError (BitReader × Array UInt8)
  | 0, _, _ => .error .formatViolated
  | fuel + 1, r, out => do
      let (final, r) ← r.bits 1
      let (kind, r) ← r.bits 2
      let (r, out) ← match kind with
        | 0 =>
            let r := r.align
            let (len, r) ← r.bits 16
            let (nlen, r) ← r.bits 16
            if len + nlen != 65535 then .error .formatViolated
            let start := r.pos / 8
            if start + len > r.bytes.size then .error .unexpectedEnd
            pure ({ r with pos := (start + len) * 8 }, out ++ r.bytes.extract start (start + len))
        | 1 => inflateCodes fixedCodes.1 fixedCodes.2 (r.remaining + 1) r out
        | 2 =>
            let (lit, dist, r) ← dynamicCodes r
            inflateCodes lit dist (r.remaining + 1) r out
        | _ => .error .formatViolated
      if final == 1 then pure (r, out) else inflateBlocks fuel r out

/-- The CRC-32 of bytes (the polynomial of gzip, reflected). -/
def crc32 (bytes : Array UInt8) : UInt32 :=
  let table : Array UInt32 := (Array.range 256).map fun n =>
    (List.range 8).foldl (fun (c : UInt32) _ =>
      if c &&& 1 == 1 then (0xEDB88320 : UInt32) ^^^ (c >>> 1) else c >>> 1) n.toUInt32
  let c := bytes.foldl (fun (c : UInt32) b =>
    table.getD ((c ^^^ b.toUInt32) &&& 0xFF).toNat 0 ^^^ (c >>> 8)) 0xFFFFFFFF
  c ^^^ 0xFFFFFFFF

/-- A little-endian number of four bytes. -/
def littleEndian32 (bytes : Array UInt8) (at_ : Nat) : Nat :=
  (List.range 4).foldl (fun acc k => acc + (bytes.getD (at_ + k) 0).toNat * Nat.pow 256 k) 0

/-- Skips a zero-terminated field from a byte position. -/
def skipZeroTerminated (bytes : Array UInt8) (start : Nat) : Option Nat :=
  ((List.range (bytes.size - start)).find? fun k => bytes.getD (start + k) 1 == 0).map (start + · + 1)

/-- Whether bytes start as gzip data does. -/
def isGzip (bytes : List UInt8) : Bool := bytes.take 2 == [0x1f, 0x8b]

/-- Inflates the members of gzip data, one after the other. -/
def gunzipFrom (bytes : Array UInt8) : Nat → Nat → Array UInt8 → Except InflateError (Array UInt8)
  | 0, _, out => .ok out
  | fuel + 1, start, out =>
      if start ≥ bytes.size then .ok out
      else if bytes.getD start 0 != 0x1f || bytes.getD (start + 1) 0 != 0x8b then
        -- what follows the first member and is not a member is ignored
        if start == 0 then .error .notGzip else .ok out
      else if start + 10 > bytes.size then .error .unexpectedEnd
      else if bytes.getD (start + 2) 0 != 8 then .error .formatViolated
      else
        let flags := (bytes.getD (start + 3) 0).toNat
        let pos := start + 10
        let pos := if flags / 4 % 2 == 1 then
            pos + 2 + (bytes.getD pos 0).toNat + (bytes.getD (pos + 1) 0).toNat * 256 else pos
        let pos := if flags / 8 % 2 == 1 then (skipZeroTerminated bytes pos).getD bytes.size else pos
        let pos := if flags / 16 % 2 == 1 then (skipZeroTerminated bytes pos).getD bytes.size else pos
        let pos := if flags / 2 % 2 == 1 then pos + 2 else pos
        if pos > bytes.size then .error .unexpectedEnd
        else do
          let (r, data) ← inflateBlocks (bytes.size * 8 + 1) { bytes, pos := pos * 8 } #[]
          let trailer := r.align.pos / 8
          if trailer + 8 > bytes.size then .error .unexpectedEnd
          if littleEndian32 bytes trailer != (crc32 data).toNat then .error .crcError
          if littleEndian32 bytes (trailer + 4) != data.size % Nat.pow 2 32 then .error .lengthError
          gunzipFrom bytes fuel (trailer + 8) (out ++ data)

/-- Inflates gzip data. -/
def gunzip (bytes : List UInt8) : Except InflateError (List UInt8) :=
  let arr := bytes.toArray
  (gunzipFrom arr (arr.size + 1) 0 #[]).map Array.toList

end BuildWorker
