/-!
# Blank characters

The Unicode `White_Space` property: the characters a trim removes and a word split
breaks on.  Core's `Char.isWhitespace` knows only the ASCII blanks, so the set is
written out here.
-/

namespace BuildWorker.Text

/-- Unicode `White_Space`: tab to carriage return, space, next line, no-break space,
ogham space mark, the spaces U+2000 to U+200A, the line and paragraph separators, the
narrow no-break space, the medium mathematical space and the ideographic space. -/
def isBlank (c : Char) : Bool :=
  let n := c.toNat
  (0x09 ≤ n && n ≤ 0x0D) || n == 0x20 || n == 0x85 || n == 0xA0 || n == 0x1680 ||
    (0x2000 ≤ n && n ≤ 0x200A) || n == 0x2028 || n == 0x2029 || n == 0x202F ||
    n == 0x205F || n == 0x3000

/-- Drops blanks from both ends of a character list. -/
def trimBlank (cs : List Char) : List Char :=
  ((cs.dropWhile isBlank).reverse.dropWhile isBlank).reverse

/-- Drops blanks from both ends of a text. -/
def trim (s : String) : String :=
  String.ofList (trimBlank s.toList)

/-- A text is blank when nothing is left after trimming. -/
def isBlankText (s : String) : Bool :=
  s.toList.all isBlank

end BuildWorker.Text
