import BuildWorker.Server.Route

/-!
# Requests over HTTP

The worker talks to the queue server over HTTP: a base URL, an optional token sent as
`Authorization: token <token>`, and a timeout.  This module says where each request
goes and what the worker reports when it cannot get there.

A token with a control character other than tab cannot be sent in a header, and the
client refuses to start.  A URL whose port cannot be read fails before anything is
sent.  A request the network cannot deliver fails with a transport error naming the
resolved URL.
-/

set_option autoImplicit false

namespace BuildWorker.Server

/-- The settings of an HTTP client. -/
structure ClientSettings where
  url : String
  token : Option String
  timeoutSecs : Nat
  deriving Repr

/-- A request of the worker, by what it addresses. -/
inductive Request where
  | registerWorker (q : QueueName)
  | removeWorker (q : QueueName) (worker : String)
  | popJob (q : QueueName) (worker : String)
  | pushJob (q : QueueName) (worker job : String)
  | finishBuild (q : QueueName) (worker job : String)
  | log (q : QueueName) (worker job : String)
  | logStructured (q : QueueName) (worker job : String)
  | fetchSource (q : QueueName) (worker job : String)
  deriving DecidableEq, Repr

/-- The route a request goes to. -/
def Request.route : Request → Route
  | .registerWorker q => .queue q
  | .removeWorker q w => .worker q w
  | .popJob q w => .jobs q w
  | .pushJob q w j => .jobAction q w j "push"
  | .finishBuild q w j => .jobAction q w j "finish"
  | .log q w j => .jobAction q w j "log"
  | .logStructured q w j => .jobAction q w j "tagged-log"
  | .fetchSource q w j => .jobAction q w j "build-source"

/-- Whether a byte may appear in a header value: tab, and everything from the space up
except the delete character. -/
def isHeaderByte (b : UInt8) : Bool :=
  b == 9 || (b ≥ 32 && b != 127)

/-- Whether a token can be sent in the authorization header. -/
def tokenFitsHeader (token : String) : Bool :=
  ("token " ++ token).toUTF8.toList.all isHeaderByte

/-- Whether a character is one a URL drops wherever it stands: tab, line feed and
carriage return. -/
def isUrlIgnored (c : Char) : Bool :=
  c == '\t' || c == '\n' || c == '\r'

/-- The schemes whose URLs the client reads, each with the port it leaves out. -/
def urlSchemes : List (String × Nat) := [("http://", 80), ("https://", 443)]

/-- The host and port of a URL as written back, or why they cannot be read.  A port is
digits naming a number up to 65535, written without leading zeros and left out when it
is the port of the scheme. -/
def resolveAuthority (schemePort : Nat) (authority : List Char) : Except String String :=
  if authority.contains '@' then .ok (String.ofList authority)
  else
    let host := (String.ofList (authority.takeWhile (· != ':'))).toLower
    match authority.dropWhile (· != ':') with
    | [] => .ok host
    | _ :: [] => .ok host
    | _ :: port =>
        match (String.ofList port).toNat? with
        | some n =>
            if !port.all Char.isDigit || n > 65535 then .error "invalid port number"
            else if n == schemePort then .ok host
            else .ok (host ++ ":" ++ toString n)
        | none => .error "invalid port number"

/-- A URL as the client sends it, or why it cannot be read.  An `http` or `https` URL
is read alike: tabs and line breaks are dropped, the port is checked, `.` and `..`
segments are applied, and the characters a URL cannot hold are escaped.  A URL of
another scheme is sent as it is. -/
def resolveUrl (url : String) : Except String String :=
  let cs := url.toList.filter fun c => !isUrlIgnored c
  let written := fun (scheme : String × Nat) =>
    (String.ofList (cs.take scheme.1.length)).toLower == scheme.1
  match urlSchemes.find? written with
  | some (scheme, port) =>
      let rest := cs.drop scheme.length
      let isEnd := fun c => c == '/' || c == '\\' || c == '?' || c == '#'
      let authority := rest.takeWhile fun c => !isEnd c
      let tail := rest.dropWhile fun c => !isEnd c
      (resolveAuthority port authority).map fun a => scheme ++ a ++ resolveTail tail
  | none => .ok url

/-- The URL a request goes to, or why it cannot be read. -/
def ClientSettings.urlOf (c : ClientSettings) (r : Request) : Except String String :=
  resolveUrl (baseUrl c.url ++ r.route.path)

/-- Why a client cannot be made from the settings, if it cannot. -/
def ClientSettings.problem (c : ClientSettings) : Option ServerError :=
  match c.token with
  | some t =>
      if tokenFitsHeader t then none
      else some (.transport "invalid token header: failed to parse header value")
  | none => none

/-- The error of a request the network cannot deliver. -/
def unreachable (url : String) : ServerError :=
  .transport ("error sending request for url (" ++ url ++
    "): error trying to connect: tcp connect error: " ++ SystemFailure.networkUnreachable.message)

/-- What a request comes to when the server cannot be reached: the client's own
problem if it has one, else a URL that cannot be read, else the connection failure. -/
def ClientSettings.sendUnreachable (c : ClientSettings) (r : Request) : ServerError :=
  (c.problem).getD <|
    match c.urlOf r with
    | .error why => .transport ("builder error: " ++ why)
    | .ok url => unreachable url

end BuildWorker.Server
