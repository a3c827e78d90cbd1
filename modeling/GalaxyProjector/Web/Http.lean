import GalaxyProjector.Text.Unicode
import GalaxyProjector.Web.Page
import GalaxyProjector.Web.Path
import GalaxyProjector.Web.Sha1
import GalaxyProjector.Bytes

/-!
The web server's HTTP side: reading a request head, and the answer to it.

A head is read line by line, each line ending at a line feed. The first line
must be UTF-8 text of exactly three words (method, target, version) split by
runs of white space; otherwise the answer is `400 Bad Request Line`. Every
other line is trimmed of ASCII blanks; an empty one ends the head, and one
without a colon is refused with `400 Invalid Header line`. A head that does
not fit the server's buffer is refused as an unexpected end. Each refusal
closes the connection.

In a header's name and value a NUL byte escapes the byte after it, and a NUL
at the end stands for nothing; both are then trimmed of ASCII blanks, escaped
ones included. Header names are matched without ASCII
case, and the first header of a name wins. The path is the target before any
`?` or `#`; a path starting with `/` is routed by reading it as percent-encoded
UTF-8 (see `pathIs`), while messages quote it as sent. A path whose reading
panics panics the firmware.

* `GET /` gets the control page; `HEAD /` gets its head alone; another method
  on `/` gets 405.
* `/ws` takes `GET` and `HEAD` (else 405). The upgrade then needs `GET`, an
  `Upgrade: websocket`, version 13 and a key (else 400, without a body for
  `HEAD`), and switches to the WebSocket protocol (101).
* Any other path gets 404, with its body even for `HEAD`.

The connection stays open after an answer only for HTTP/1.1 whose
`Connection` header, if any, is not `close` and has no comma-separated item
`upgrade` (both without ASCII case; items trimmed of blanks). A body the
request declares with `Content-Length` (an optional `+` and decimal digits)
is read past before answering. Text bodies are sent as `text/plain` with their
length; the status line has no reason phrase.
-/

namespace GalaxyProjector

namespace Web

def isAsciiBlank (b : UInt8) : Bool := b == 32 || b == 9 || b == 10 || b == 12 || b == 13

def trimBlanks (b : Bytes) : Bytes :=
  ((b.dropWhile isAsciiBlank).reverse.dropWhile isAsciiBlank).reverse

def lowerByte (b : UInt8) : UInt8 := if 65 ≤ b && b ≤ 90 then b + 32 else b

def sameIgnoringCase (a b : Bytes) : Bool := a.map lowerByte == b.map lowerByte

/-- The words of a text: the runs between white space, in order; `cur` holds
the current word, reversed. -/
def wordsOf (cur : List Char) : List Char → List String
  | [] => if cur.isEmpty then [] else [String.ofList cur.reverse]
  | c :: cs =>
    if Text.isWhite c then
      if cur.isEmpty then wordsOf [] cs else String.ofList cur.reverse :: wordsOf [] cs
    else wordsOf (c :: cur) cs

structure Request where
  method : String
  target : String
  version : String
  /-- Header names and values, trimmed of ASCII blanks and unescaped, in order. -/
  headers : List (Bytes × Bytes)
  deriving DecidableEq, Repr, Inhabited

def Request.header? (r : Request) (name : String) : Option Bytes :=
  (r.headers.find? fun h => sameIgnoringCase h.1 (Utf8.encode name)).map (·.2)

def Request.path (r : Request) : String :=
  String.ofList (r.target.toList.takeWhile fun c => c != '?' && c != '#')

/-- A size in decimal as a 64-bit word reads it: an optional `+` and at least
one digit, below 2^64. -/
def parseSize (b : Bytes) : Option Nat :=
  let digits := match b with
    | 43 :: ds => ds
    | ds => ds
  if digits.isEmpty || !digits.all (fun d => 48 ≤ d && d ≤ 57) then none
  else
    let n := digits.foldl (fun acc d => acc * 10 + (d.toNat - 48)) 0
    if n < Nat.pow 2 64 then some n else none

def Request.contentLength (r : Request) : Nat :=
  ((r.header? "content-length").bind parseSize).getD 0

def commaItems (cur : Bytes) : Bytes → List Bytes
  | [] => [cur.reverse]
  | c :: rest => if c == 44 then cur.reverse :: commaItems [] rest else commaItems (c :: cur) rest

/-- Whether a `Connection` value asks to close: it is `close`, or one of its
items is `upgrade`. -/
def closes (v : Bytes) : Bool :=
  sameIgnoringCase v (Utf8.encode "close") ||
    (commaItems [] v).any fun item => sameIgnoringCase (trimBlanks item) (Utf8.encode "upgrade")

def Request.keepAlive (r : Request) : Bool :=
  r.version == "HTTP/1.1" && !((r.header? "connection").any closes)

inductive HeadError where
  | badRequestLine
  | noColon
  | tooLong
  deriving DecidableEq, Repr, Inhabited

inductive HeadScan where
  | incomplete
  | request (r : Request) (rest : Bytes)
  | refused (e : HeadError)
  deriving DecidableEq, Repr, Inhabited

def nextLine (b : Bytes) : Option (Bytes × Bytes) :=
  (b.findIdx? (· == 10)).map fun i => (b.take i, b.drop (i + 1))

def requestLine (line : Bytes) : Option (String × String × String) :=
  if !Utf8.valid line then none
  else
    match wordsOf [] (Utf8.decodeLossy line).toList with
    | [m, t, v] => some (m, t, v)
    | _ => none

/-- A header name or value with its escapes resolved: a NUL byte stands for
the byte after it, and for nothing at the end. -/
def unescape : Bytes → Bytes
  | [] => []
  | [0] => []
  | 0 :: b :: rest => b :: unescape rest
  | b :: rest => b :: unescape rest

def scanHeaders (method target version : String) : Nat → List (Bytes × Bytes) → Bytes → HeadScan
  | 0, _, _ => .incomplete
  | fuel + 1, acc, b =>
    match nextLine b with
    | none => .incomplete
    | some (line, rest) =>
      let line := trimBlanks line
      if line.isEmpty then .request { method, target, version, headers := acc.reverse } rest
      else
        match line.findIdx? (· == 58) with
        | none => .refused .noColon
        | some i =>
          let header := (trimBlanks (unescape (line.take i)), trimBlanks (unescape (line.drop (i + 1))))
          scanHeaders method target version fuel (header :: acc) rest

/-- Read a request head from the front of the buffer. -/
def scanHead (b : Bytes) : HeadScan :=
  match nextLine b with
  | none => .incomplete
  | some (first, rest) =>
    match requestLine first with
    | none => .refused .badRequestLine
    | some (method, target, version) => scanHeaders method target version (rest.length + 1) [] rest

inductive Route where
  | page
  | socket
  deriving DecidableEq, Repr, Inhabited

/-- The route a request's path leads to, or the panic text if reading the
path panics. The path must start with a `/` as written; `/ws` is tried
before `/`. -/
def Request.route (r : Request) : Except String (Option Route) := do
  let p := Utf8.encode r.path
  if !r.path.startsWith "/" then return none
  if ← pathIs "/ws" p then return some .socket
  if ← pathIs "/" p then return some .page
  return none

def responseHead (status : Nat) (headers : List (String × String)) : Bytes :=
  Utf8.encode ("HTTP/1.1 " ++ toString status ++ "\r\n" ++
    String.join (headers.map fun (k, v) => k ++ ": " ++ v ++ "\r\n") ++ "\r\n")

structure Answer where
  head : Bytes
  body : Bytes
  keep : Bool
  deriving DecidableEq, Repr, Inhabited

inductive Reply where
  | respond (a : Answer)
  | upgrade (head : Bytes)
  deriving DecidableEq, Repr, Inhabited

def textAnswer (status : Nat) (body : String) (extra : List (String × String)) (keep : Bool) : Answer :=
  let b := Utf8.encode body
  { head := responseHead status ([("Content-Type", "text/plain; charset=utf-8"),
      ("Content-Length", toString b.length)] ++ extra ++
      [("Connection", if keep then "keep-alive" else "close")]),
    body := b, keep }

def refusal (e : HeadError) : Answer :=
  let text := match e with
    | .badRequestLine => "Bad Request Line"
    | .noColon => "Invalid Header line: No ':' character"
    | .tooLong => "Unexpected EOF while reading request"
  textAnswer 400 text [] false

def unavailable (keep : Bool) : Answer :=
  textAnswer 503 "Service Unavailable: too many WebSocket connections" [("Retry-After", "5")] keep

def websocketGuid : String := "258EAFA5-E914-47DA-95CA-C5AB0DC85B11"

def acceptKey (key : Bytes) : String := Base64.encode (Sha1.digest (key ++ Utf8.encode websocketGuid))

/-- The reply on `/ws` to `GET` or `HEAD`: the checks of an upgrade. -/
def upgradeReply (r : Request) (keep : Bool) : Reply :=
  let bad (text : String) : Reply := .respond (textAnswer 400 text [] keep)
  if r.method != "GET" then bad "Websocket upgrades must use the `GET` method\n"
  else if !((r.header? "upgrade").any fun v => sameIgnoringCase v (Utf8.encode "websocket")) then
    bad "Websocket upgrades must have an Upgrade of `websocket`\n"
  else if r.header? "sec-websocket-version" != some (Utf8.encode "13") then
    bad "Websocket version must be 13\n"
  else
    match r.header? "sec-websocket-key" with
    | none => bad "Websocket upgrades must have a `Sec-WebSocket-Key` header\n"
    | some key =>
      .upgrade (responseHead 101 [("Upgrade", "websocket"), ("Connection", "upgrade"),
        ("Sec-WebSocket-Accept", acceptKey key)])

def Reply.headOnly : Reply → Reply
  | .respond a => .respond { a with body := [] }
  | .upgrade h => .upgrade h

/-- The answer to a request, or the panic text if routing it panics. -/
def answer (r : Request) : Except String Reply :=
  let keep := r.keepAlive
  let routed := r.method == "GET" || r.method == "HEAD"
  let trimmed (reply : Reply) : Reply := if r.method == "HEAD" then reply.headOnly else reply
  let notAllowed : Reply :=
    .respond (textAnswer 405 ("Method " ++ r.method ++ " not allowed for " ++ r.path ++ "\r\n") [] keep)
  r.route.map fun
  | some .page =>
    if routed then trimmed (.respond (textAnswer 200 page [("Content-Type", "text/html; charset=utf-8")] keep))
    else notAllowed
  | some .socket => if routed then trimmed (upgradeReply r keep) else notAllowed
  | none => .respond (textAnswer 404 (r.path ++ " not found\r\n") [] keep)

end Web

end GalaxyProjector
