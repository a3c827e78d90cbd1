import GalaxyProjector.Net.Interface

/-!
A network stack: an interface, whether its link is up, and the waker of the
task that runs it. Every socket operation wakes that task, so the interface is
polled again after anything a socket's user does.

The operations here are single attempts, as a task makes them each time it is
polled: they either finish or leave the task's waker with the socket and say
the task must wait.
-/

namespace GalaxyProjector

structure Stack where
  iface : Interface
  linkUp : Bool := false
  runner : Option Task := none
  deriving Repr, Inhabited

inductive ReadResult where
  | data (d : Bytes)
  | eof
  | reset
  deriving DecidableEq, Repr, Inhabited

inductive WriteResult where
  | wrote (n : Nat)
  | reset
  deriving DecidableEq, Repr, Inhabited

namespace Stack

def wake (s : Stack) : Stack × List Task :=
  match s.runner with
  | some t => ({ s with runner := none }, [t])
  | none => (s, [])

def openSocket (s : Stack) (rxCap txCap : Nat) : Nat × Stack :=
  let (k, iface) := s.iface.add (.tcp (Endpoint.new rxCap txCap))
  (k, { s with iface })

def endpoint (s : Stack) (k : Nat) : Endpoint := (s.iface.endpoint? k).getD (Endpoint.new 0 0)

def modify (s : Stack) (k : Nat) (f : Endpoint → Endpoint × List Task) : Stack × List Task :=
  let (e, w1) := f (s.endpoint k)
  let (s, w2) := { s with iface := s.iface.setEndpoint k e }.wake
  (s, w1 ++ w2)

/-- Drop a socket: it leaves the interface without a word to the peer. -/
def drop (s : Stack) (k : Nat) : Stack × List Task := { s with iface := s.iface.remove k }.wake

def listen (s : Stack) (k n : Nat) : Stack × List Task := s.modify k (·.listen n)

def connect (s : Stack) (k : Nat) (q : Quad) : Stack × List Task := s.modify k (·.connect q)

def close (s : Stack) (k : Nat) : Stack × List Task := s.modify k (·.close)

def abort (s : Stack) (k : Nat) : Stack × List Task := s.modify k (·.abort)

def opening (st : TcpState) : Bool := st == .listen || st == .synSent || st == .synReceived

/-- One attempt to accept: true once a connection is set up; otherwise `t`
waits for the socket. -/
def acceptPoll (s : Stack) (k : Nat) (t : Task) : Stack × List Task × Bool :=
  let e := s.endpoint k
  if opening e.state then
    let (s, w) := s.modify k fun e => ({ e with txWaker := some t }, [])
    (s, w, false)
  else let (s, w) := s.wake; (s, w, true)

/-- One attempt to finish connecting: `some true` when connected, `some false`
when the connection was refused, `none` while `t` waits. -/
def connectPoll (s : Stack) (k : Nat) (t : Task) : Stack × List Task × Option Bool :=
  let e := s.endpoint k
  if e.state == .closed || e.state == .timeWait then let (s, w) := s.wake; (s, w, some false)
  else if opening e.state then
    let (s, w) := s.modify k fun e => ({ e with txWaker := some t }, [])
    (s, w, none)
  else let (s, w) := s.wake; (s, w, some true)

def readPoll (s : Stack) (k n : Nat) (t : Task) : Stack × List Task × Option ReadResult :=
  let (r, e) := (s.endpoint k).recvSlice n
  match r with
  | .finished => let (s, w) := s.modify k fun _ => (e, []); (s, w, some .eof)
  | .invalid => let (s, w) := s.modify k fun _ => (e, []); (s, w, some .reset)
  | .data [] => let (s, w) := s.modify k fun _ => ({ e with rxWaker := some t }, []); (s, w, none)
  | .data d => let (s, w) := s.modify k fun _ => (e, []); (s, w, some (.data d))

def writePoll (s : Stack) (k : Nat) (data : Bytes) (t : Task) : Stack × List Task × Option WriteResult :=
  match (s.endpoint k).sendSlice data with
  | none => let (s, w) := s.wake; (s, w, some .reset)
  | some (0, e) => let (s, w) := s.modify k fun _ => ({ e with txWaker := some t }, []); (s, w, none)
  | some (n, e) => let (s, w) := s.modify k fun _ => (e, []); (s, w, some (.wrote n))

/-- Whether sent data, a FIN or a reset is still to be acknowledged or sent. -/
def unflushed (e : Endpoint) : Bool :=
  (!e.tx.isEmpty && e.state != .closed) || e.wantFin || (e.state == .closed && e.quad.isSome)

/-- One attempt to flush: true once everything sent is through; otherwise
`t` waits. -/
def flushPoll (s : Stack) (k : Nat) (t : Task) : Stack × List Task × Bool :=
  if unflushed (s.endpoint k) then
    let (s, w) := s.modify k fun e => ({ e with txWaker := some t }, [])
    (s, w, false)
  else let (s, w) := s.wake; (s, w, true)

end Stack

end GalaxyProjector
