/-!
# Shell quoting

A text becomes one shell word.  A non-empty text made only of ASCII letters, digits
and `-_=/,.+` stands as it is.  Any other text is put between single quotes, where
every character is literal; a single quote inside is written `'\''` and an
exclamation mark `'\!'`, which close the quotes, add the character escaped, and open
them again.
-/

namespace BuildWorker.Shell

/-- Characters that never need quoting. -/
def isSafeChar (c : Char) : Bool :=
  ('a' ≤ c && c ≤ 'z') || ('A' ≤ c && c ≤ 'Z') || ('0' ≤ c && c ≤ '9') ||
    c == '-' || c == '_' || c == '=' || c == '/' || c == ',' || c == '.' || c == '+'

/-- The body of a single-quoted word: quotes and exclamation marks step outside. -/
def quoteBody : List Char → List Char
  | [] => []
  | c :: rest =>
      if c == '\'' || c == '!' then '\'' :: '\\' :: c :: '\'' :: quoteBody rest
      else c :: quoteBody rest

/-- Whether a text stands as a shell word unquoted. -/
def isPlainWord (cs : List Char) : Bool :=
  !cs.isEmpty && cs.all isSafeChar

/-- One shell word that reads back as the given characters. -/
def quoteChars (cs : List Char) : List Char :=
  if isPlainWord cs then cs else '\'' :: quoteBody cs ++ ['\'']

/-- One shell word that reads back as the given text. -/
def quote (s : String) : String :=
  String.ofList (quoteChars s.toList)

end BuildWorker.Shell
