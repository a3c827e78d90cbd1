import GalaxyProjector.Bench.World
import GalaxyProjector.Tasking.Task
import GalaxyProjector.Web.Http
import GalaxyProjector.Web.Socket
import GalaxyProjector.Wire.Json

/-!
A web server task. It loops: open a socket listening on TCP 80, accept a connection,
serve it, drop the socket.

Serving reads requests into a buffer of 1024 bytes. The first bytes of a
request must come within 5 s and the rest of the head within 1 s; a head
that is refused, or does not fit the buffer, is answered with a 400 and the
connection closes. A body whose end lies past 2^64 - 1 bytes from the head's
start panics (see `overflowPanic`). The request is then routed, which may
panic too (see `Web.pathIs`), and an upgrade takes its snapshot subscription;
the body the request declares is read past, with no time limit and no more
than the body asks for, before the answer is sent. An answer is written head
first and then body, each followed by a flush, and every write or flush must
finish within 1 s. Whatever fails or times out ends the connection: the server closes its
side and waits up to 1 s for the close to be acknowledged; if it is, it reads
until the client closes, for 1 s at most. Then it drops the socket, which
sends nothing more.

After a WebSocket upgrade the task subscribes to the snapshot broadcast. If
two or more bytes came after the handshake's head, the WebSocket's first read
panics (see `leftoverPanic`) and the firmware stops. Otherwise the task
waits for whichever comes first: a message from the client or a snapshot.
A snapshot wins over a message still half read, whose bytes are then lost.
A text message is decoded into a command and queued, waiting for room; one that
does not decode is answered with an error reply. The JSON library is a
parameter (`Wire.Codec`): it reads envelopes and writes snapshots and error
replies, and a text that does not fit its buffer is not sent. A ping is answered with a
pong; binary messages and pongs are ignored. A close, or a broken frame,
is answered with a close frame, which ends the WebSocket; so does a failed
send or a lost connection, without a close frame.
-/

namespace GalaxyProjector

def serverBuffer : Nat := 1024

inductive Sending where
  | write (b : Bytes)
  | flush
  deriving DecidableEq, Repr, Inhabited

inductive After where
  | request
  | shutdown
  | upgraded
  | frames
  | hangUp
  deriving DecidableEq, Repr, Inhabited

inductive ServerPhase where
  | fresh
  | accepting
  | awaitRequest (deadline : Nat)
  | readHead (deadline : Nat)
  | discard (left : Nat) (parts : List Sending) (ok fail : After)
  | sending (parts : List Sending) (deadline : Nat) (ok fail : After)
  | frames (r : WebSocket.Reader)
  | enqueue (c : Command)
  | closeFlush (deadline : Nat)
  | drain (deadline : Nat)
  deriving Repr, Inhabited

structure ServerTask where
  index : Nat
  slot : Nat := 0
  buf : Bytes := []
  /-- The next snapshot id, while subscribed. -/
  subscriber : Option Nat := none
  phase : ServerPhase := .fresh
  deriving Repr, Inhabited

/-- The panic when the end of a request's body, counted in bytes from the start
of its head, does not fit a 64-bit word. -/
def overflowPanic : String := "attempt to add with overflow"

/-- The panic when a WebSocket starts with `n` bytes already buffered: its
first read copies all of them into a one-byte buffer. -/
def leftoverPanic (n : Nat) : String :=
  "copy_from_slice: source slice length (" ++ toString n ++ ") does not match destination slice length (1)"

namespace ServerTask

def task (s : ServerTask) : Task := .server s.index

def parts (head body : Bytes) : List Sending :=
  [.write head, .flush] ++ (if body.isEmpty then [] else [.write body, .flush])

def sendFrame (w : World) (s : ServerTask) (op : Nat) (payload : Bytes) (ok fail : After) :
    World × Step ServerTask :=
  (w, .next { s with phase := .sending [.write (WebSocket.encode op payload none), .flush] (w.now + 1000000) ok fail })

/-- Start reading a WebSocket message: the first piece takes what the buffer
holds. -/
def startPiece (s : ServerTask) (r : WebSocket.Reader) : ServerTask :=
  let n := r.missing
  { s with buf := s.buf.drop n, phase := .frames { r with got := r.got ++ s.buf.take n } }

def shutdown (w : World) (s : ServerTask) : World × Step ServerTask :=
  let w := w.net_ .device (·.close s.slot)
  (w, .next { s with phase := .closeFlush (w.now + 1000000) })

def resume (w : World) (s : ServerTask) : After → World × Step ServerTask
  | .request => (w, .next { s with phase := .awaitRequest (w.now + 5000000) })
  | .shutdown => shutdown w s
  | .upgraded =>
    if s.buf.length ≥ 2 then (w.fail (leftoverPanic s.buf.length), .done s)
    else (w, .next (startPiece s {}))
  | .frames => (w, .next (startPiece s {}))
  | .hangUp =>
    let w := match s.subscriber with
      | some next => { w with broadcast := w.broadcast.unsubscribe next }
      | none => w
    shutdown w { s with subscriber := none }

def finish (w : World) (s : ServerTask) : World × Step ServerTask :=
  (w.net_ .device (·.drop s.slot), .next { s with phase := .fresh, buf := [] })

def waitUntil (w : World) (s : ServerTask) (deadline : Nat) (late : World → World × Step ServerTask) :
    World × Step ServerTask :=
  let (w, gone) := w.expired deadline s.task
  if gone then late w else (w, .wait s)

def respond (w : World) (s : ServerTask) (a : Web.Answer) : World × Step ServerTask :=
  (w, .next { s with phase := .sending (parts a.head a.body) (w.now + 1000000)
                       (if a.keep then .request else .shutdown) .shutdown })

/-- Route a request and decide its answer, to be sent once its body has been
read past. -/
def answer (w : World) (s : ServerTask) (req : Web.Request) : World × Step ServerTask :=
  let later (todo : List Sending) (ok fail : After) (s : ServerTask) : ServerTask :=
    { s with phase := .discard req.contentLength todo ok fail }
  let plain (a : Web.Answer) : ServerTask :=
    later (parts a.head a.body) (if a.keep then .request else .shutdown) .shutdown s
  match Web.answer req with
  | .error m => (w.fail m, .done s)
  | .ok (.respond a) => (w, .next (plain a))
  | .ok (.upgrade h) =>
    match w.broadcast.subscribe with
    | some (next, b) =>
      ({ w with broadcast := b }, .next (later (parts h []) .upgraded .hangUp { s with subscriber := some next }))
    | none => (w, .next (plain (Web.unavailable req.keepAlive)))

def onMessage (json : Wire.Codec) (w : World) (s : ServerTask) : WebSocket.Message → World × Step ServerTask
  | .text t =>
    match Wire.decode json t with
    | .ok c => (w, .next { s with phase := .enqueue c })
    | .error e =>
      match Wire.errorSlice json e with
      | some b => sendFrame w s 1 b .frames .hangUp
      | none => resume w s .frames
  | .binary _ => (w, .next (startPiece s {}))
  | .ping p => sendFrame w s 10 p .frames .hangUp
  | .pong _ => (w, .next (startPiece s {}))
  | .close _ => sendFrame w s 8 [] .hangUp .hangUp
  | .failed code => sendFrame w s 8 (Bytes.bigEndian 2 code ++ Utf8.encode "WebSocket Error") .hangUp .hangUp

/-- Neither a message nor a snapshot is there yet: a snapshot may be. -/
def awaitSnapshot (json : Wire.Codec) (w : World) (s : ServerTask) : World × Step ServerTask :=
  match s.subscriber with
  | some next =>
    let (m?, next, b, woken) := w.broadcast.take next (some s.task)
    let w := { w with broadcast := b }.wakeAll woken
    let s := { s with subscriber := some next }
    match m? with
    | some m =>
      match Wire.snapshotSlice json m with
      | some b => sendFrame w s 1 b .frames .hangUp
      | none => resume w s .frames
    | none => (w, .wait s)
  | none => (w, .wait s)

def step (json : Wire.Codec) (w : World) (s : ServerTask) : World × Step ServerTask :=
  match s.phase with
  | .fresh =>
    let (w, k) := w.net .device fun st => let (k, st) := st.openSocket serverBuffer serverBuffer; (st, [], k)
    let w := w.net_ .device (·.listen k 80)
    (w, .next { s with slot := k, buf := [], subscriber := none, phase := .accepting })
  | .accepting =>
    let (w, ok) := w.net .device (·.acceptPoll s.slot s.task)
    if ok then (w, .next { s with phase := .awaitRequest (w.now + 5000000) }) else (w, .wait s)
  | .awaitRequest deadline =>
    if !s.buf.isEmpty then (w, .next { s with phase := .readHead (w.now + 1000000) })
    else
      let (w, r) := w.net .device (·.readPoll s.slot serverBuffer s.task)
      match r with
      | some (.data d) => (w, .next { s with buf := d, phase := .readHead (w.now + 1000000) })
      | some _ => shutdown w s
      | none => waitUntil w s deadline fun w => shutdown w s
  | .readHead deadline =>
    match Web.scanHead s.buf with
    | .request req rest =>
      if s.buf.length - rest.length + req.contentLength ≥ Nat.pow 2 64 then (w.fail overflowPanic, .done s)
      else answer w { s with buf := rest } req
    | .refused e => respond w { s with buf := [] } (Web.refusal e)
    | .incomplete =>
      if s.buf.length ≥ serverBuffer then respond w { s with buf := [] } (Web.refusal .tooLong)
      else
        let (w, r) := w.net .device (·.readPoll s.slot (serverBuffer - s.buf.length) s.task)
        match r with
        | some (.data d) => (w, .next { s with buf := s.buf ++ d })
        | some _ => shutdown w s
        | none => waitUntil w s deadline fun w => shutdown w s
  | .discard left todo ok fail =>
    if left == 0 then (w, .next { s with phase := .sending todo (w.now + 1000000) ok fail })
    else if !s.buf.isEmpty then
      let n := min left s.buf.length
      (w, .next { s with buf := s.buf.drop n, phase := .discard (left - n) todo ok fail })
    else
      let (w, r) := w.net .device (·.readPoll s.slot (min left serverBuffer) s.task)
      match r with
      | some (.data d) => (w, .next { s with buf := d })
      | some _ => resume w s fail
      | none => (w, .wait s)
  | .sending parts deadline ok fail =>
    match parts with
    | [] => resume w s ok
    | .write b :: rest =>
      let (w, r) := w.net .device (·.writePoll s.slot b s.task)
      match r with
      | some (.wrote n) =>
        let left := b.drop n
        let parts := if left.isEmpty then rest else .write left :: rest
        (w, .next { s with phase := .sending parts (w.now + 1000000) ok fail })
      | some .reset => resume w s fail
      | none => waitUntil w s deadline fun w => resume w s fail
    | .flush :: rest =>
      let (w, done) := w.net .device (·.flushPoll s.slot s.task)
      if done then (w, .next { s with phase := .sending rest (w.now + 1000000) ok fail })
      else waitUntil w s deadline fun w => resume w s fail
  | .frames r =>
    if r.missing > 0 then
      let (w, got) := w.net .device (·.readPoll s.slot r.missing s.task)
      match got with
      | some (.data d) => (w, .next { s with phase := .frames { r with got := r.got ++ d } })
      | some _ => resume w s .hangUp
      | none => awaitSnapshot json w s
    else
      match r.advance with
      | .inr r => (w, .next (startPiece s r))
      | .inl m => onMessage json w s m
  | .enqueue c =>
    let (q, sent, woken) := w.mailbox.trySend c (some s.task)
    let w := { w with mailbox := q }.wakeAll woken
    if sent then (w, .next (startPiece s {})) else (w, .wait s)
  | .closeFlush deadline =>
    let (w, done) := w.net .device (·.flushPoll s.slot s.task)
    if done then (w, .next { s with phase := .drain (w.now + 1000000) })
    else waitUntil w s deadline fun w => finish w s
  | .drain deadline =>
    let (w, r) := w.net .device (·.readPoll s.slot 128 s.task)
    match r with
    | some (.data _) => (w, .next { s with phase := .drain deadline })
    | some _ => finish w s
    | none => waitUntil w s deadline fun w => finish w s

end ServerTask

end GalaxyProjector
