import GalaxyProjector.Bench.World
import GalaxyProjector.Tasking.Task
import GalaxyProjector.Web.Socket

/-!
A scripted client session, run as a task on the client host. It sleeps until
its start and connects to the device's web server on TCP 80, giving up at its
stop time. Then it alternates between sending what is due and reading what
arrives. It notes when the server closed or reset the connection. It ends at
its stop time, or as soon as the server has closed and nothing is left to
send, by aborting the connection: a reset goes out.

A raw HTTP session sends its request at once. A WebSocket session sends the
handshake at once, then its steps at their times, masked; steps due at the
same time (other than the handshake's) go out in one write. Writes wait for
room in the socket; a write to a connection that is gone fails, and the
session keeps the time of the last such write.
-/

namespace GalaxyProjector

/-- Where a session connects from: TCP 49152 plus its index. -/
def clientPort (k : Nat) : Nat := 49152 + k

structure Transcript where
  connectedAt : Option Nat := none
  connectError : Option String := none
  eofAt : Option Nat := none
  writeErrorAt : Option Nat := none
  chunks : List (Nat × Bytes) := []
  deriving DecidableEq, Repr, Inhabited

def Outgoing.bytes : Outgoing → Bytes
  | .text s => WebSocket.encode 1 (Utf8.encode s) (some WebSocket.clientMask)
  | .binary b => WebSocket.encode 2 b (some WebSocket.clientMask)
  | .ping s => WebSocket.encode 9 (Utf8.encode s) (some WebSocket.clientMask)
  | .pong s => WebSocket.encode 10 (Utf8.encode s) (some WebSocket.clientMask)
  | .close none => WebSocket.encode 8 [] (some WebSocket.clientMask)
  | .close (some code) => WebSocket.encode 8 (Bytes.bigEndian 2 code) (some WebSocket.clientMask)
  | .raw b => b

def handshake (path key : String) : Bytes :=
  Utf8.encode ("GET " ++ path ++ " HTTP/1.1\r\nHost: 192.168.1.50\r\nUpgrade: websocket\r\n" ++
    "Connection: Upgrade\r\nSec-WebSocket-Key: " ++ key ++ "\r\nSec-WebSocket-Version: 13\r\n\r\n")

/-- Add a step to the writes planned so far: it joins the last write if that
is due at the same time and is not the first. -/
def planStep (plan : List (Nat × Bytes)) (step : Nat × Outgoing) : List (Nat × Bytes) :=
  let t := step.1 * 1000
  match plan.getLast? with
  | some (t', b) =>
    if t' == t && plan.length > 1 then plan.dropLast ++ [(t, b ++ step.2.bytes)]
    else plan ++ [(t, step.2.bytes)]
  | none => plan ++ [(t, step.2.bytes)]

/-- The writes of a session connected at `now` (µs), with their times. -/
def plan (p : Play) (now : Nat) : List (Nat × Bytes) :=
  match p with
  | .http request => [(now, Utf8.encode request)]
  | .websocket path key sends => sends.foldl planStep [(now, handshake path key)]

inductive SessionPhase where
  | sleeping
  | connecting (slot : Nat)
  | pumping (slot : Nat) (writes : List (Nat × Bytes)) (eof : Bool)
  | writing (slot : Nat) (data : Bytes) (writes : List (Nat × Bytes)) (eof : Bool)
  | reading (slot : Nat) (writes : List (Nat × Bytes)) (eof : Bool)
  deriving Repr, Inhabited

structure SessionTask where
  index : Nat
  spec : Session
  phase : SessionPhase := .sleeping
  seen : Transcript := {}
  deriving Repr, Inhabited

namespace SessionTask

def task (s : SessionTask) : Task := .session s.index

def stopAt (s : SessionTask) : Nat := s.spec.stop * 1000

def step (w : World) (s : SessionTask) : World × Step SessionTask :=
  match s.phase with
  | .sleeping =>
    let start := s.spec.start * 1000
    if start > w.now then (w.schedule start s.task, .wait s)
    else
      let (w, k) := w.net .client fun st => let (k, st) := st.openSocket 4096 4096; (st, [], k)
      let w := w.net_ .client (·.connect k ⟨Ipv4.client, clientPort s.index, Ipv4.device, 80⟩)
      (w, .next { s with phase := .connecting k })
  | .connecting k =>
    let (w, r) := w.net .client (·.connectPoll k s.task)
    match r with
    | some true =>
      (w, .next { s with seen := { s.seen with connectedAt := some w.millis },
                         phase := .pumping k (plan s.spec.play w.now) false })
    | some false =>
      (w.net_ .client (·.drop k), .done { s with seen := { s.seen with connectError := some "ConnectionReset" } })
    | none =>
      let (w, gone) := w.expired s.stopAt s.task
      if gone then (w.net_ .client (·.drop k), .done { s with seen := { s.seen with connectError := some "timeout" } })
      else (w, .wait s)
  | .pumping k writes eof =>
    match writes with
    | (t, data) :: rest =>
      if t ≤ w.now then (w, .next { s with phase := .writing k data rest eof })
      else if w.now ≥ s.stopAt then (w.net_ .client (·.abort k), .done s)
      else (w, .next { s with phase := .reading k writes eof })
    | [] =>
      if w.now ≥ s.stopAt || eof then (w.net_ .client (·.abort k), .done s)
      else (w, .next { s with phase := .reading k writes eof })
  | .writing k data writes eof =>
    let (w, r) := w.net .client (·.writePoll k data s.task)
    match r with
    | some (.wrote n) =>
      let left := data.drop n
      (w, .next { s with phase := if left.isEmpty then .pumping k writes eof else .writing k left writes eof })
    | some .reset =>
      (w, .next { s with seen := { s.seen with writeErrorAt := some w.millis }, phase := .pumping k writes eof })
    | none => (w, .wait s)
  | .reading k writes eof =>
    let wakeAt := match writes with
      | (t, _) :: _ => min t s.stopAt
      | [] => s.stopAt
    let (w, got) := if eof then (w, none) else w.net .client (·.readPoll k 2048 s.task)
    match got with
    | some (.data d) =>
      (w, .next { s with seen := { s.seen with chunks := s.seen.chunks ++ [(w.millis, d)] },
                         phase := .pumping k writes eof })
    | some .eof =>
      (w, .next { s with seen := { s.seen with eofAt := some w.millis }, phase := .pumping k writes true })
    | some .reset =>
      let eofAt := s.seen.eofAt.or (some w.millis)
      (w, .next { s with seen := { s.seen with eofAt }, phase := .pumping k writes true })
    | none =>
      if wakeAt ≤ w.now then (w, .next { s with phase := .pumping k writes eof })
      else (w.schedule wakeAt s.task, .wait s)

end SessionTask

end GalaxyProjector
