import BuildWorker.Queue.Name
import BuildWorker.Error

/-!
# Server routes

Every request of a worker goes to a URL under the server's base URL:

* `…/build-worker/<user>/<queue>` registers a worker;
* `…/<worker>` under it removes one;
* `…/<worker>/jobs` hands out a job;
* `…/<worker>/jobs/<job>/<action>` acts on a job (`push`, `finish`, `log`,
  `tagged-log`, `build-source`).

Each name is percent-encoded as one path segment: letters, digits and `-_.~` stand,
every other byte of its UTF-8 form is written `%XX`.  So a name never adds a segment
of its own, but the names `.` and `..` remain, and the URL standard reads them as
"this directory" and "the parent": the URL the request goes to is the resolved one.
-/

set_option autoImplicit false

namespace BuildWorker.Server

/-- Upper-case hexadecimal digit. -/
def hexDigit (n : Nat) : Char :=
  if n < 10 then Char.ofNat (48 + n) else Char.ofNat (55 + n)

/-- A byte as `%XX`. -/
def percentByte (b : UInt8) : List Char :=
  ['%', hexDigit (b.toNat / 16), hexDigit (b.toNat % 16)]

/-- Whether a byte stands unencoded in a path segment. -/
def isUnreserved (b : UInt8) : Bool :=
  (65 ≤ b && b ≤ 90) || (97 ≤ b && b ≤ 122) || (48 ≤ b && b ≤ 57) ||
    b == 45 || b == 95 || b == 46 || b == 126

/-- A name as one path segment. -/
def encodeSegment (s : String) : String :=
  String.ofList (s.toUTF8.toList.flatMap fun b =>
    if isUnreserved b then [Char.ofNat b.toNat] else percentByte b)

/-- The place a request addresses. -/
inductive Route where
  | queue (q : QueueName)
  | worker (q : QueueName) (worker : String)
  | jobs (q : QueueName) (worker : String)
  | jobAction (q : QueueName) (worker job action : String)
  deriving DecidableEq, Repr

/-- The path of a queue below the base URL. -/
def queuePath (q : QueueName) : String :=
  "/build-worker/" ++ encodeSegment q.user ++ "/" ++ encodeSegment q.queue

/-- The path of a worker below the base URL. -/
def workerPath (q : QueueName) (w : String) : String :=
  queuePath q ++ "/" ++ encodeSegment w

/-- The path of a route below the base URL, names encoded, not yet resolved. -/
def Route.path : Route → String
  | .queue q => queuePath q
  | .worker q w => workerPath q w
  | .jobs q w => workerPath q w ++ "/jobs"
  | .jobAction q w j action => workerPath q w ++ "/jobs/" ++ encodeSegment j ++ "/" ++ action

/-! ## Resolving a URL path -/

/-- Whether a byte is written `%XX` in a path: controls, space, `"#<>?{}` and the
backquote, and every byte of a non-ASCII character. -/
def isPathEscaped (b : UInt8) : Bool :=
  b < 32 || b > 126 || b == 32 || b == 34 || b == 35 || b == 60 || b == 62 || b == 63 ||
    b == 96 || b == 123 || b == 125

/-- Whether a byte is written `%XX` in a query. -/
def isQueryEscaped (b : UInt8) : Bool :=
  b < 32 || b > 126 || b == 32 || b == 34 || b == 35 || b == 60 || b == 62 || b == 39

/-- Whether a byte is written `%XX` in a fragment. -/
def isFragmentEscaped (b : UInt8) : Bool :=
  b < 32 || b > 126 || b == 32 || b == 34 || b == 60 || b == 62 || b == 96

/-- Text with the bytes of a class written `%XX`. -/
def escapeWith (escaped : UInt8 → Bool) (s : List Char) : String :=
  String.ofList ((String.ofList s).toUTF8.toList.flatMap fun b =>
    if escaped b then percentByte b else [Char.ofNat b.toNat])

/-- Whether a segment means "this directory": `.` or its encoded form. -/
def isSingleDot (seg : String) : Bool :=
  seg == "." || seg.toLower == "%2e"

/-- Whether a segment means "the parent directory". -/
def isDoubleDot (seg : String) : Bool :=
  let s := seg.toLower
  s == ".." || s == ".%2e" || s == "%2e." || s == "%2e%2e"

/-- Splits a path at `/` and `\`, which both separate segments in web URLs. -/
def splitSegments (path : List Char) : List (List Char) :=
  path.foldr (fun c acc => match acc with
    | [] => [[c]]
    | cur :: rest => if c == '/' || c == '\\' then [] :: cur :: rest else (c :: cur) :: rest)
    [[]]

/-- Resolves the segments of a path (after its leading separator): `.` segments
vanish, `..` removes the segment before it, and a trailing `.` or `..` leaves the path
ending in a separator. -/
def resolveSegments : List String → List String → List String
  | acc, [] => acc.reverse
  | acc, [seg] =>
      if isDoubleDot seg then (acc.drop 1 |>.reverse) ++ [""]
      else if isSingleDot seg then acc.reverse ++ [""]
      else (seg :: acc).reverse
  | acc, seg :: rest =>
      if isDoubleDot seg then resolveSegments (acc.drop 1) rest
      else if isSingleDot seg then resolveSegments acc rest
      else resolveSegments (seg :: acc) rest

/-- The resolved form of what follows the host: the path with its segments resolved and
escaped, then the query and the fragment. -/
def resolveTail (tail : List Char) : String :=
  let beforeFragment := tail.takeWhile (· != '#')
  let fragment := tail.dropWhile (· != '#')
  let path := beforeFragment.takeWhile (· != '?')
  let query := beforeFragment.dropWhile (· != '?')
  let segments := match splitSegments path with
    | [] :: rest => rest
    | other => other
  let resolved := resolveSegments [] (segments.map fun seg => escapeWith isPathEscaped seg)
  "/" ++ "/".intercalate resolved ++
    (match query with
     | [] => ""
     | _ :: q => "?" ++ escapeWith isQueryEscaped q) ++
    (match fragment with
     | [] => ""
     | _ :: f => "#" ++ escapeWith isFragmentEscaped f)

/-- The base URL of a server, with the trailing slashes of the configured one removed. -/
def baseUrl (configured : String) : String :=
  String.ofList (configured.toList.reverse.dropWhile (· == '/')).reverse

end BuildWorker.Server
